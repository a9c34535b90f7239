import Geocoding.Proofs.Http.Posting
import Geocoding.Proofs.Http.Reply
import Geocoding.Proofs.Text.Symbol

/-!
# What becomes of a question over HTTP

A question is posted once and takes one reply.  It is answered by a reply of success that comes
in time and whose body holds an answer from its beginning to its end.  It is late if the host
does not reply in time, or does not finish a reply of success in time.  It fails in every other
case, and then the status of the reply is looked at before its body.
-/

namespace Geocoding.Http

open Text (Symbol)

/-! ## The reply at a position -/

/-- The question at a position is put to an address, reaches its host and gets a reply that comes
to this one. -/
structure Network.Replies (network : Network) (url : Url) (position : Nat) (final : Reply) :
    Prop where
  askable : Askable url
  reached : network.reachable = true
  replied : ∃ reply, network.replies[position]? = some reply ∧ reply.ComesTo final

/-- A host hangs up on the question at a position, or no host can be reached with it. -/
def Network.Loses (network : Network) (position : Nat) : Prop :=
  network.reachable = true →
    ∀ reply, network.replies[position]? = some reply → reply.ComesTo .hangUp

/-- What the question at a position comes to. -/
inductive ComesTo (timeout : Duration) (url : Url) (network : Network) (position : Nat) :
    Except RemoteError RawAnswer → Prop
  | unaskable (refused : ¬ Askable url) :
      ComesTo timeout url network position (.error (.transport
        ("builder error for url (" ++ url.withoutCredentials.text ++ ")")))
  | lost (askable : Askable url) (lost : network.Loses position) :
      ComesTo timeout url network position (.error (.transport
        ("error sending request for url (" ++ url.withoutCredentials.text ++ ")")))
  | late (silent : network.Replies url position .silence) :
      ComesTo timeout url network position (.error (.timeout timeout))
  | stalled {status : Status} (stalled : network.Replies url position (.stalled status))
      (success : status.Succeeds) (bodied : status.code ≠ 204) :
      ComesTo timeout url network position (.error (.timeout timeout))
  | refused {status : Status}
      (replied : network.Replies url position (.stalled status) ∨
        ∃ body, network.Replies url position (.answer status body))
      (failed : ¬ status.Succeeds) :
      ComesTo timeout url network position (.error (.transport
        ("Unexpected response status: " ++ status.text)))
  | bodiless {status : Status} (replied : network.Replies url position (.stalled status))
      (success : status.Succeeds) (bodiless : status.code = 204) :
      ComesTo timeout url network position (.error (.transport "error decoding response body"))
  | undecodable {status : Status} {body : List UInt8}
      (replied : network.Replies url position (.answer status body)) (success : status.Succeeds)
      (nothing : status.code = 204 ∨ ∀ answer, ¬ Holds (Symbol.ofBytes body) answer) :
      ComesTo timeout url network position (.error (.transport "error decoding response body"))
  | answered {status : Status} {body : List UInt8} {answer : RawAnswer}
      (replied : network.Replies url position (.answer status body)) (success : status.Succeeds)
      (bodied : status.code ≠ 204) (holds : Holds (Symbol.ofBytes body) answer) :
      ComesTo timeout url network position (.ok answer)

def answerAt (timeout : Duration) (url : Url) (network : Network) (position : Nat) :
    Except RemoteError RawAnswer :=
  if canAsk url then
    match (if network.reachable then network.replies[position]? else none) with
    | some reply => reply.read timeout url
    | none => .error (about "error sending request" url)
  else .error (about "builder error" url)

variable {timeout : Duration} {url : Url} {request : NormalizationRequest} {network : Network}
variable {position : Nat} {outcome : Except RemoteError RawAnswer}

theorem ask_fst_eq : (ask timeout url request network).1 = answerAt timeout url network 0 := by
  rw [ask, answerAt]
  by_cases askable : canAsk url = true
  · rw [if_pos askable, if_pos askable, Network.send]
    by_cases reached : network.reachable = true
    · rw [if_pos reached, if_pos reached]
      cases network.replies <;> rfl
    · rw [if_neg reached, if_neg reached]
  · rw [if_neg askable, if_neg askable]

theorem answerAt_of_unaskable (refused : ¬ Askable url) :
    answerAt timeout url network position = .error (about "builder error" url) := by
  rw [answerAt, if_neg (canAsk_iff_askable.not.mpr refused)]

theorem Network.Replies.answerAt_eq {final : Reply}
    (replies : network.Replies url position final) :
    answerAt timeout url network position = final.read timeout url := by
  obtain ⟨askable, reached, reply, found, comes⟩ := replies
  rw [answerAt, if_pos (canAsk_iff_askable.mpr askable), if_pos reached, found, ← comes.read_eq]

theorem answerAt_of_loses (askable : Askable url) (lost : network.Loses position) :
    answerAt timeout url network position = .error (about "error sending request" url) := by
  rw [answerAt, if_pos (canAsk_iff_askable.mpr askable)]
  by_cases reached : network.reachable = true
  · rw [if_pos reached]
    cases found : network.replies[position]? with
    | none => rfl
    | some reply => exact (lost reached reply found).read_eq
  · rw [if_neg reached]

theorem ComesTo.answerAt_eq (comes : ComesTo timeout url network position outcome) :
    answerAt timeout url network position = outcome := by
  cases comes with
  | unaskable refused => exact answerAt_of_unaskable refused
  | lost askable lost => exact answerAt_of_loses askable lost
  | late silent => exact silent.answerAt_eq
  | stalled stalled success bodied =>
    rw [stalled.answerAt_eq, Reply.read_stalled_of_bodied success bodied]
  | refused replied failed =>
    obtain replied | ⟨body, replied⟩ := replied
    · rw [replied.answerAt_eq, Reply.read_of_not_succeeds failed (.inl rfl)]
    · rw [replied.answerAt_eq, Reply.read_of_not_succeeds failed (.inr ⟨body, rfl⟩)]
  | bodiless replied success bodiless =>
    rw [replied.answerAt_eq, Reply.read_stalled_of_bodiless success bodiless]
  | undecodable replied success nothing =>
    rw [replied.answerAt_eq, Reply.read_answer_of_not_holds success nothing]
  | answered replied success bodied holds =>
    rw [replied.answerAt_eq, Reply.read_answer_of_holds success bodied holds]

theorem exists_comesTo_of_stalled {status : Status}
    (replied : network.Replies url position (.stalled status)) :
    ∃ outcome, ComesTo timeout url network position outcome := by
  by_cases success : status.Succeeds
  · by_cases bodiless : status.code = 204
    · exact ⟨_, .bodiless replied success bodiless⟩
    · exact ⟨_, .stalled replied success bodiless⟩
  · exact ⟨_, .refused (.inl replied) success⟩

theorem exists_comesTo_of_answer {status : Status} {body : List UInt8}
    (replied : network.Replies url position (.answer status body)) :
    ∃ outcome, ComesTo timeout url network position outcome := by
  by_cases success : status.Succeeds
  · by_cases bodied : status.code ≠ 204 ∧ ∃ answer, Holds (Symbol.ofBytes body) answer
    · obtain ⟨bodied, answer, holds⟩ := bodied
      exact ⟨_, .answered replied success bodied holds⟩
    · have nothing : status.code = 204 ∨ ∀ answer, ¬ Holds (Symbol.ofBytes body) answer := by
        rwa [not_and_or, not_not, not_exists] at bodied
      exact ⟨_, .undecodable replied success nothing⟩
  · exact ⟨_, .refused (.inr ⟨body, replied⟩) success⟩

theorem exists_comesTo (timeout : Duration) (url : Url) (network : Network) (position : Nat) :
    ∃ outcome, ComesTo timeout url network position outcome := by
  by_cases askable : Askable url
  · by_cases reached : network.reachable = true
    · cases found : network.replies[position]? with
      | none => exact ⟨_, .lost askable (by simp [Network.Loses, found])⟩
      | some reply =>
        obtain comes | comes | ⟨status, comes⟩ | ⟨status, body, comes⟩ := reply.exists_comesTo
        · exact ⟨_, .late ⟨askable, reached, reply, found, comes⟩⟩
        · refine ⟨_, .lost askable fun _ other alsoFound => ?_⟩
          rwa [← Option.some.inj (found.symm.trans alsoFound)]
        · exact exists_comesTo_of_stalled ⟨askable, reached, reply, found, comes⟩
        · exact exists_comesTo_of_answer ⟨askable, reached, reply, found, comes⟩
    · exact ⟨_, .lost askable fun reachable => (reached reachable).elim⟩
  · exact ⟨_, .unaskable askable⟩

theorem answerAt_eq_iff :
    answerAt timeout url network position = outcome ↔
      ComesTo timeout url network position outcome := by
  constructor
  · rintro rfl
    obtain ⟨outcome, comes⟩ := exists_comesTo timeout url network position
    rwa [comes.answerAt_eq]
  · exact ComesTo.answerAt_eq

/-! ## Questions -/

theorem comesTo_ok_iff {answer : RawAnswer} :
    ComesTo timeout url network position (.ok answer) ↔
      ∃ status body, network.Replies url position (.answer status body) ∧ status.Succeeds ∧
        status.code ≠ 204 ∧ Holds (Symbol.ofBytes body) answer := by
  constructor
  · rintro (_ | _ | _ | _ | _ | _ | _ | ⟨replied, success, bodied, holds⟩)
    exact ⟨_, _, replied, success, bodied, holds⟩
  · rintro ⟨status, body, replied, success, bodied, holds⟩
    exact .answered replied success bodied holds

theorem comesTo_timeout_iff {duration : Duration} :
    ComesTo timeout url network position (.error (.timeout duration)) ↔
      duration = timeout ∧ (network.Replies url position .silence ∨
        ∃ status, network.Replies url position (.stalled status) ∧ status.Succeeds ∧
          status.code ≠ 204) := by
  constructor
  · intro comes
    cases comes with
    | late silent => exact ⟨rfl, .inl silent⟩
    | stalled stalled success bodied => exact ⟨rfl, .inr ⟨_, stalled, success, bodied⟩⟩
  · rintro ⟨rfl, silent | ⟨status, stalled, success, bodied⟩⟩
    · exact .late silent
    · exact .stalled stalled success bodied

/-- A question is posted with one message that tells it, if its address can be asked and is
reached.  It is answered just if a reply of success comes in time whose whole body holds the
answer, and it is late just if there is no reply in time or a body of success is not there in
time.  Another status is told whatever the body, and a body that holds no answer is none in part
either. -/
theorem ask_outcome (timeout : Duration) (url : Url) (request : NormalizationRequest)
    (network : Network) :
    (Askable url ∧ network.reachable = true → ∃ message : Exchange, message.PostsTo url request ∧
      (ask timeout url request network).2.exchanges = network.exchanges ++ [message]) ∧
    (¬ (Askable url ∧ network.reachable = true) →
      (ask timeout url request network).2.exchanges = network.exchanges) ∧
    (∀ answer, (ask timeout url request network).1 = .ok answer ↔
      ∃ status body, network.Replies url 0 (.answer status body) ∧ status.Succeeds ∧
        status.code ≠ 204 ∧ Holds (Symbol.ofBytes body) answer) ∧
    (∀ duration, (ask timeout url request network).1 = .error (.timeout duration) ↔
      duration = timeout ∧ (network.Replies url 0 .silence ∨
        ∃ status, network.Replies url 0 (.stalled status) ∧ status.Succeeds ∧
          status.code ≠ 204)) ∧
    (∀ status : Status, ¬ status.Succeeds →
      (network.Replies url 0 (.stalled status) ∨
        ∃ body, network.Replies url 0 (.answer status body)) →
      (ask timeout url request network).1 =
        .error (.transport ("Unexpected response status: " ++ status.text))) ∧
    (∀ status body, network.Replies url 0 (.answer status body) → status.Succeeds →
      (status.code = 204 ∨ ∀ answer, ¬ Holds (Symbol.ofBytes body) answer) →
      (ask timeout url request network).1 =
        .error (.transport "error decoding response body")) ∧
    ∀ body more answer other, Holds body answer → Holds (body ++ more) other →
      more ∈ Json.blank ∧ answer = other := by
  have posted := exchanges_ask timeout url request network
  have delivers : canAsk url ∧ network.reachable ↔ Askable url ∧ network.reachable = true := by
    rw [canAsk_iff_askable]
  rw [ask_fst_eq]
  refine ⟨?_, ?_, ?_, ?_, ?_, ?_, ?_⟩
  · intro delivered
    rw [if_pos (delivers.mpr delivered)] at posted
    exact ⟨_, postsTo_ofForm url request, posted⟩
  · intro lost
    rw [posted, if_neg (delivers.not.mpr lost), List.append_nil]
  · intro answer
    rw [answerAt_eq_iff, comesTo_ok_iff]
  · intro duration
    rw [answerAt_eq_iff, comesTo_timeout_iff]
  · intro status failed replied
    exact (ComesTo.refused replied failed).answerAt_eq
  · intro status body replied success nothing
    exact (ComesTo.undecodable replied success nothing).answerAt_eq
  · intro body more answer other holds alsoHolds
    exact holds.append alsoHolds

def localUrl : Url where
  scheme := "http".toList
  authority := some { host := .name "localhost".toList }
  path := .rooted [[]]
  query := none
  fragment := none

def plainAnswer : List UInt8 :=
  Text.utf8 "\x7b\"tipoRispostaNorm\":\"1\"\x7d"

def replying (reply : Reply) : Network where
  replies := [reply]

theorem replies_replying {reply final : Reply} (comes : reply.ComesTo final) :
    (replying reply).Replies localUrl 0 final where
  askable := canAsk_iff_askable.mp (by decide +kernel)
  reached := rfl
  replied := ⟨reply, rfl, comes⟩

/-- What answers a question behind a status of success, after an interim reply or not, is no
answer on an error page, nor where the status leaves no room for a body. -/
theorem ask_outcome_plainAnswer :
    Holds (Symbol.ofBytes plainAnswer) { responseCode := "1" } ∧
    (ask defaultTimeout localUrl (streetQuestion "Via Roma" none)
      (replying (.interim (.answer ⟨200, by decide⟩ plainAnswer)))).1 =
        .ok { responseCode := "1" } ∧
    (ask defaultTimeout localUrl (streetQuestion "Via Roma" none)
      (replying (.answer ⟨204, by decide⟩ plainAnswer))).1 =
        .error (.transport "error decoding response body") ∧
    (ask defaultTimeout localUrl (streetQuestion "Via Roma" none)
      (replying (.answer ⟨500, by decide⟩ plainAnswer))).1 =
        .error (.transport "Unexpected response status: 500 Internal Server Error") ∧
    (ask defaultTimeout localUrl (streetQuestion "Via Roma" none)
      (replying (.stalled ⟨200, by decide⟩))).1 = .error (.timeout defaultTimeout) ∧
    (ask defaultTimeout localUrl (streetQuestion "Via Roma" none)
      (replying .silence)).2.exchanges =
        [⟨"POST", "http://localhost/", "application/x-www-form-urlencoded",
          "algoritmo=2&indirizzo=Via+Roma&localita=Firenze&fonte=1"⟩] := by
  have holds : Holds (Symbol.ofBytes plainAnswer) { responseCode := "1" } :=
    holds_iff_read.mpr (by decide +kernel)
  have message : "Unexpected response status: " ++ (Status.mk 500 (by decide)).text =
      "Unexpected response status: 500 Internal Server Error" := by decide
  have outcome := fun reply => ask_outcome defaultTimeout localUrl (streetQuestion "Via Roma" none)
    (replying reply)
  refine ⟨holds, ?_, ?_, ?_, ?_, by decide +kernel⟩
  · obtain ⟨_, _, answered, _⟩ := outcome (.interim (.answer ⟨200, by decide⟩ plainAnswer))
    exact (answered _).mpr ⟨⟨200, by decide⟩, plainAnswer, replies_replying (.later (.now _)),
      ⟨by decide, by decide⟩, by decide, holds⟩
  · obtain ⟨_, _, _, _, _, undecoded, _⟩ := outcome (.answer ⟨204, by decide⟩ plainAnswer)
    exact undecoded _ _ (replies_replying (.now _)) ⟨by decide, by decide⟩ (.inl rfl)
  · obtain ⟨_, _, _, _, refused, _⟩ := outcome (.answer ⟨500, by decide⟩ plainAnswer)
    rw [← message]
    refine refused _ ?_ (.inr ⟨plainAnswer, replies_replying (.now _)⟩)
    rw [Status.Succeeds]
    decide
  · obtain ⟨_, _, _, late, _⟩ := outcome (.stalled ⟨200, by decide⟩)
    exact (late _).mpr ⟨rfl, .inr ⟨⟨200, by decide⟩, replies_replying (.now _),
      ⟨by decide, by decide⟩, by decide⟩⟩

end Geocoding.Http
