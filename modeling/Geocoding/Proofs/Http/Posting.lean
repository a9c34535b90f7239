import Geocoding.Http.Service
import Geocoding.Proofs.Url.Form

/-!
# Questions as they are posted

A question is posted as a form with a parameter for each of its parts.  Whoever reads the
form finds every part under its own name and with the text that the question holds.  So no
text can pass for another parameter, and no two questions are posted alike.
-/

namespace Geocoding

/-! ## The parts of a question in a form -/

theorem injective_of_parse? {Kind : Type} {parse? : String → Option Kind} {wireCode : Kind → String}
    (reads : ∀ kind, parse? (wireCode kind) = some kind) : Function.Injective wireCode := by
  intro first second same
  rw [← Option.some_inj, ← reads first, same, reads]

theorem Algorithm.parse?_wireCode (algorithm : Algorithm) :
    parse? algorithm.wireCode = some algorithm := by
  cases algorithm <;> rfl

theorem DataSource.parse?_wireCode (source : DataSource) :
    parse? source.wireCode = some source := by
  cases source <;> rfl

/-- Forms with the same names in the same order are the same if each name, which stands in
them once, has the same value in both. -/
theorem form_eq_of_lookup_eq {first second : List (String × String)}
    (names : first.map Prod.fst = second.map Prod.fst) (distinct : (first.map Prod.fst).Nodup)
    (values : ∀ name ∈ first.map Prod.fst, first.lookup name = second.lookup name) :
    first = second := by
  induction first generalizing second with
  | nil => exact (List.map_eq_nil_iff.mp names.symm).symm
  | cons head rest ih =>
    obtain ⟨name, value⟩ := head
    cases second with
    | nil => simp at names
    | cons other others =>
      obtain ⟨otherName, otherValue⟩ := other
      obtain ⟨rfl, restNames⟩ : name = otherName ∧ rest.map Prod.fst = others.map Prod.fst := by
        simpa using names
      obtain ⟨unused, restDistinct⟩ := List.nodup_cons.mp distinct
      have same : value = otherValue := by simpa using values name (by simp)
      have restValues : ∀ known ∈ rest.map Prod.fst, rest.lookup known = others.lookup known := by
        intro known mem
        have differs : known ≠ name := fun equal => unused (equal ▸ mem)
        simpa [List.lookup_cons, beq_false_of_ne differs] using
          values known (List.mem_cons_of_mem _ mem)
      rw [same, ih restNames restDistinct restValues]

namespace NormalizationRequest

/-- A form tells a question if it has each part of it once, under the name of that part, and
nothing else. -/
structure ToldBy (request : NormalizationRequest) (form : List (String × String)) : Prop where
  names : form.map Prod.fst = ["algoritmo", "indirizzo", "localita"] ++
    (if request.subdivision.isSome then ["provincia"] else []) ++
    (if request.postalCode.isSome then ["cap"] else []) ++ ["fonte"]
  distinct : (form.map Prod.fst).Nodup
  algorithm : form.lookup "algoritmo" = some request.algorithm.wireCode
  address : form.lookup "indirizzo" = some request.address
  municipality : form.lookup "localita" = some request.municipality
  subdivision : form.lookup "provincia" = request.subdivision
  postalCode : form.lookup "cap" = request.postalCode
  dataSource : form.lookup "fonte" = some request.dataSource.wireCode

theorem toldBy_parameters (request : NormalizationRequest) :
    request.ToldBy request.parameters := by
  obtain ⟨algorithm, address, municipality, subdivision, postalCode, dataSource⟩ := request
  cases subdivision <;> cases postalCode <;> constructor <;>
    simp [parameters, List.lookup_cons]

theorem ToldBy.eq_parameters {request : NormalizationRequest} {form : List (String × String)}
    (told : request.ToldBy form) : form = request.parameters := by
  have known := request.toldBy_parameters
  apply form_eq_of_lookup_eq (told.names.trans known.names.symm) told.distinct
  intro name mem
  have listed : name ∈ ["algoritmo", "indirizzo", "localita", "provincia", "cap", "fonte"] := by
    rw [told.names] at mem
    simp only [List.mem_append, List.mem_ite_nil_right, List.mem_cons, List.not_mem_nil,
      or_false] at mem ⊢
    grind
  simp only [List.mem_cons, List.not_mem_nil, or_false] at listed
  obtain rfl | rfl | rfl | rfl | rfl | rfl := listed
  · rw [told.algorithm, known.algorithm]
  · rw [told.address, known.address]
  · rw [told.municipality, known.municipality]
  · rw [told.subdivision, known.subdivision]
  · rw [told.postalCode, known.postalCode]
  · rw [told.dataSource, known.dataSource]

theorem ToldBy.unique {first second : NormalizationRequest} {form : List (String × String)}
    (told : first.ToldBy form) (also : second.ToldBy form) : first = second := by
  have algorithm : first.algorithm.wireCode = second.algorithm.wireCode :=
    Option.some.inj (told.algorithm.symm.trans also.algorithm)
  have address := Option.some.inj (told.address.symm.trans also.address)
  have municipality := Option.some.inj (told.municipality.symm.trans also.municipality)
  have subdivision := told.subdivision.symm.trans also.subdivision
  have postalCode := told.postalCode.symm.trans also.postalCode
  have dataSource : first.dataSource.wireCode = second.dataSource.wireCode :=
    Option.some.inj (told.dataSource.symm.trans also.dataSource)
  cases first
  cases second
  rw [mk.injEq]
  exact ⟨injective_of_parse? Algorithm.parse?_wireCode algorithm, address, municipality,
    subdivision, postalCode, injective_of_parse? DataSource.parse?_wireCode dataSource⟩

end NormalizationRequest

namespace Http

/-! ## The posted form -/

/-- An address can be asked over HTTP. -/
structure Askable (url : Url) : Prop where
  scheme : url.scheme = "http".toList ∨ url.scheme = "https".toList
  host : ∀ authority ∈ url.authority, ∀ character ∈ authority.host.text,
    character ∉ ['"', '\x60', '\x7b', '\x7d']
  short : url.withoutCredentials.text.utf8ByteSize ≤ 65534

theorem canAsk_iff_askable {url : Url} : canAsk url = true ↔ Askable url := by
  have host : ((url.authority.elim [] fun authority => authority.host.text).all
      fun character => character ∉ ['"', '\x60', '\x7b', '\x7d']) = true ↔
      ∀ authority ∈ url.authority, ∀ character ∈ authority.host.text,
        character ∉ ['"', '\x60', '\x7b', '\x7d'] := by
    cases url.authority <;> simp
  rw [canAsk, Bool.and_eq_true, Bool.and_eq_true, Bool.or_eq_true, beq_iff_eq, beq_iff_eq, host,
    decide_eq_true_iff]
  constructor
  · rintro ⟨⟨scheme, host⟩, short⟩
    exact ⟨scheme, host, short⟩
  · rintro ⟨scheme, host, short⟩
    exact ⟨⟨scheme, host⟩, short⟩

/-- A message posts a question to an address, as a form that tells it. -/
structure Exchange.PostsTo (message : Exchange) (url : Url) (request : NormalizationRequest) :
    Prop where
  method : message.method = "POST"
  address : message.url = url.withoutCredentials.withoutFragment.text
  contentType : message.contentType = "application/x-www-form-urlencoded"
  told : request.ToldBy (Url.Form.decode message.body.toList)

theorem decode_body_ofForm (url : Url) (pairs : List (String × String)) :
    Url.Form.decode (Exchange.ofForm url pairs).body.toList = pairs := by
  rw [Exchange.ofForm, String.toList_ofList, Url.Form.decode_encode]

theorem postsTo_ofForm (url : Url) (request : NormalizationRequest) :
    (Exchange.ofForm url request.parameters).PostsTo url request where
  method := rfl
  address := rfl
  contentType := rfl
  told := by
    rw [decode_body_ofForm]
    exact request.toldBy_parameters

theorem exchanges_ask (timeout : Duration) (url : Url) (request : NormalizationRequest)
    (network : Network) :
    (ask timeout url request network).2.exchanges = network.exchanges ++
      if canAsk url ∧ network.reachable then [Exchange.ofForm url request.parameters] else [] := by
  rw [ask]
  by_cases askable : canAsk url = true
  · rw [if_pos askable, Network.send]
    by_cases reached : network.reachable = true
    · rw [if_pos reached, if_pos ⟨askable, reached⟩]
      cases network.replies <;> rfl
    · rw [if_neg reached, if_neg (fun both => reached both.2), List.append_nil]
  · rw [if_neg askable, if_neg (fun both => askable both.1), List.append_nil]

/-- What is posted of a question is read, by anyone who reads forms, as exactly the
parameters of the question, each of them once.  Hence two questions that are posted with
the same body are the same question. -/
theorem posted_form_faithful :
    (∀ (timeout : Duration) (url : Url) (request : NormalizationRequest) (network : Network),
      (ask timeout url request network).2.exchanges = network.exchanges ++
        if canAsk url ∧ network.reachable then [Exchange.ofForm url request.parameters]
        else []) ∧
    (∀ (url : Url) (request : NormalizationRequest),
      let form := Url.Form.decode (Exchange.ofForm url request.parameters).body.toList
      form = request.parameters ∧ request.ToldBy form) ∧
    ∀ (url other : Url) (first second : NormalizationRequest),
      (Exchange.ofForm url first.parameters).body = (Exchange.ofForm other second.parameters).body →
        first = second := by
  refine ⟨exchanges_ask, fun url request => ?_, fun url other first second same => ?_⟩
  · rw [decode_body_ofForm]
    exact ⟨rfl, request.toldBy_parameters⟩
  · have told := first.toldBy_parameters
    rw [← decode_body_ofForm url first.parameters, same, decode_body_ofForm] at told
    exact told.unique second.toldBy_parameters

def streetQuestion (address : String) (postalCode : Option String) : NormalizationRequest where
  algorithm := adapterAlgorithm
  address
  municipality := "Firenze"
  subdivision := none
  postalCode
  dataSource := adapterDataSource

/-- A street that is spelled like a parameter does not add one. -/
theorem posted_form_faithful_spelled :
    ∀ url, (Exchange.ofForm url (streetQuestion "Via Roma&cap=50100" none).parameters).body ≠
      (Exchange.ofForm url (streetQuestion "Via Roma" (some "50100")).parameters).body := by
  intro url same
  have equal := posted_form_faithful.2.2 url url _ _ same
  exact absurd equal (by decide)

end Http

end Geocoding
