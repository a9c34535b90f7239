import Geocoding.Http.Service
import Geocoding.Proofs.Json.Wholeness
import Geocoding.Proofs.Normalization.AnswerTree

/-!
# What a reply tells

A reply may be preceded by any number of interim ones, which tell nothing.  What it tells is then
decided by its status, except for one of success that comes with a body, which is decided by the
whole body, and late if the end of the body is.
-/

namespace Geocoding.Http

open Text (Symbol)

theorem mapError_eq_ok {Cause Other Result : Type} {change : Cause → Other}
    {part : Except Cause Result} {result : Result} :
    part.mapError change = .ok result ↔ part = .ok result := by
  cases part with
  | error cause => simp [Except.mapError]
  | ok found => simp [Except.mapError]

/-! ## Bodies -/

/-- A body holds an answer if it is one JSON document whose tree can be read and tells this
answer. -/
def Holds (body : List Symbol) (answer : RawAnswer) : Prop :=
  ∃ root, body ∈ root.documents ∧ (∃ value, Answer.answerShape.read 0 root = .ok value) ∧
    Answer.ofTree? root = some answer

theorem holds_iff_read {body : List Symbol} {answer : RawAnswer} :
    Holds body answer ↔ Answer.read body = .ok answer := by
  rw [Answer.read, Json.Shape.readText_bind_eq_ok_iff]
  constructor
  · rintro ⟨root, written, ⟨value, read⟩, tells⟩
    refine ⟨root, value, written, read, ?_⟩
    exact Option.some.inj ((Answer.ofTree?_of_read read).symm.trans tells)
  · rintro ⟨root, value, written, read, rfl⟩
    exact ⟨root, written, ⟨value, read⟩, Answer.ofTree?_of_read read⟩

/-- A body that holds an answer cannot be cut off, and nothing but space can be added to it. -/
theorem Holds.append {body more : List Symbol} {answer other : RawAnswer}
    (holds : Holds body answer) (alsoHolds : Holds (body ++ more) other) :
    more ∈ Json.blank ∧ answer = other := by
  obtain ⟨value, read, same⟩ := Json.Reading.bind_eq_ok.mp (holds_iff_read.mp holds)
  obtain ⟨whole, readWhole, alsoSame⟩ := Json.Reading.bind_eq_ok.mp (holds_iff_read.mp alsoHolds)
  obtain ⟨space, rfl⟩ := Json.Shape.readText_append read readWhole
  exact ⟨space, Except.ok.inj (same.symm.trans alsoSame)⟩

theorem not_holds_nil (answer : RawAnswer) : ¬ Holds (Symbol.ofBytes []) answer := by
  have refused : Answer.read [] = .error (.fault .truncated) := by decide +kernel
  rw [Symbol.ofBytes, holds_iff_read, refused]
  simp

/-! ## Statuses -/

def Status.Succeeds (status : Status) : Prop :=
  200 ≤ status.code ∧ status.code ≤ 299

theorem Status.isSuccess_iff {status : Status} :
    status.isSuccess = true ↔ status.Succeeds := by
  rw [isSuccess, Succeeds, Bool.and_eq_true, decide_eq_true_iff, decide_eq_true_iff]
  omega

theorem Status.Succeeds.hasBody_iff {status : Status} (success : status.Succeeds) :
    status.hasBody = true ↔ status.code ≠ 204 := by
  obtain ⟨least, most⟩ := success
  simp only [hasBody, decide_eq_true_iff, List.mem_cons, List.not_mem_nil, or_false]
  omega

section Body

variable {status : Status} {body : List UInt8}

theorem readBody_of_holds {answer : RawAnswer} (success : status.Succeeds)
    (holds : Holds (Symbol.ofBytes body) answer) : readBody status body = .ok answer := by
  rw [readBody, if_pos (Status.isSuccess_iff.mpr success), holds_iff_read.mp holds]
  rfl

theorem readBody_of_not_holds (success : status.Succeeds)
    (nothing : ∀ answer, ¬ Holds (Symbol.ofBytes body) answer) :
    readBody status body = .error (.transport "error decoding response body") := by
  rw [readBody, if_pos (Status.isSuccess_iff.mpr success)]
  cases found : Answer.read (Symbol.ofBytes body) with
  | error error => rfl
  | ok answer => exact (nothing answer (holds_iff_read.mpr found)).elim

theorem readBody_of_not_succeeds (failed : ¬ status.Succeeds) :
    readBody status body = .error (.transport ("Unexpected response status: " ++ status.text)) := by
  rw [← Status.isSuccess_iff] at failed
  rw [readBody, if_neg failed]

end Body

/-! ## Replies -/

namespace Reply

/-- A reply comes down to another one that is preceded by interim ones. -/
inductive ComesTo : Reply → Reply → Prop
  | now (reply : Reply) : ComesTo reply reply
  | later {reply final : Reply} (comes : reply.ComesTo final) : ComesTo (.interim reply) final

variable {timeout : Duration} {url : Url} {reply final : Reply} {status : Status}
variable {body : List UInt8}

theorem ComesTo.read_eq (comes : reply.ComesTo final) :
    reply.read timeout url = final.read timeout url := by
  induction comes with
  | now => rfl
  | later comes ih => rw [read, ih]

theorem exists_comesTo (reply : Reply) :
    reply.ComesTo .silence ∨ reply.ComesTo .hangUp ∨ (∃ status, reply.ComesTo (.stalled status)) ∨
      ∃ status body, reply.ComesTo (.answer status body) := by
  induction reply with
  | interim reply ih =>
    obtain comes | comes | ⟨status, comes⟩ | ⟨status, body, comes⟩ := ih
    · exact .inl (.later comes)
    · exact .inr (.inl (.later comes))
    · exact .inr (.inr (.inl ⟨status, .later comes⟩))
    · exact .inr (.inr (.inr ⟨status, body, .later comes⟩))
  | answer status body => exact .inr (.inr (.inr ⟨status, body, .now _⟩))
  | stalled status => exact .inr (.inr (.inl ⟨status, .now _⟩))
  | silence => exact .inl (.now _)
  | hangUp => exact .inr (.inl (.now _))

theorem read_answer_of_holds {answer : RawAnswer} (success : status.Succeeds)
    (bodied : status.code ≠ 204) (holds : Holds (Symbol.ofBytes body) answer) :
    (Reply.answer status body).read timeout url = .ok answer := by
  rw [read, Status.bodyOf, if_pos (success.hasBody_iff.mpr bodied)]
  exact readBody_of_holds success holds

theorem read_answer_of_not_holds (success : status.Succeeds)
    (nothing : status.code = 204 ∨ ∀ answer, ¬ Holds (Symbol.ofBytes body) answer) :
    (Reply.answer status body).read timeout url =
      .error (.transport "error decoding response body") := by
  rw [read, Status.bodyOf]
  split
  · next bodied =>
    exact readBody_of_not_holds success
      (nothing.resolve_left (success.hasBody_iff.mp bodied))
  · exact readBody_of_not_holds success not_holds_nil

theorem read_of_not_succeeds (failed : ¬ status.Succeeds)
    (tells : reply = .stalled status ∨ ∃ body, reply = .answer status body) :
    reply.read timeout url =
      .error (.transport ("Unexpected response status: " ++ status.text)) := by
  obtain rfl | ⟨body, rfl⟩ := tells
  · have unsuccessful : status.isSuccess = false := by
      rwa [← Status.isSuccess_iff, Bool.not_eq_true] at failed
    rw [read, unsuccessful]
    exact readBody_of_not_succeeds failed
  · exact readBody_of_not_succeeds failed

theorem read_stalled_of_bodied (success : status.Succeeds) (bodied : status.code ≠ 204) :
    (Reply.stalled status).read timeout url = .error (.timeout timeout) := by
  rw [read, Status.isSuccess_iff.mpr success, success.hasBody_iff.mpr bodied]
  rfl

theorem read_stalled_of_bodiless (success : status.Succeeds) (bodiless : status.code = 204) :
    (Reply.stalled status).read timeout url =
      .error (.transport "error decoding response body") := by
  have ended : status.hasBody = false := by
    rw [← Bool.not_eq_true, success.hasBody_iff]
    exact not_not_intro bodiless
  rw [read, ended, Bool.and_false]
  exact readBody_of_not_holds success not_holds_nil

end Reply

end Geocoding.Http
