import Geocoding.Proofs.Batch.Projection
import Geocoding.Session
import Mathlib.Data.List.Forall2

/-!
# Batches against a script

The stage that a batch of a session has reached depends on its script and on the
questions asked so far, and on nothing else.  This file gives that stage in closed
form, and shows which answers of the script the result sets come from.
-/

namespace Geocoding

namespace Script

def answerAt (script : Script) (position : Nat) : Except RemoteError RawAnswer :=
  script.answers[position]?.getD (.error (.transport "no more answers"))

def stopsAfter (script : Script) (count : Nat) : Bool :=
  script.cancelled || script.cancelAfter.any fun moment =>
    script.requests.length < moment && moment ≤ script.requests.length + count

def asked (script : Script) (requests : List NormalizationRequest) : Script :=
  requests.foldl (fun before request => (before.ask request).2) script

theorem ask_eq (script : Script) (request : NormalizationRequest) :
    script.ask request = (script.answerAt 0, { script with
      answers := script.answers.tail
      requests := script.requests ++ [request]
      cancelled := script.cancelled ||
        script.cancelAfter == some (script.requests.length + 1) }) := by
  cases found : script.answers <;> simp [ask, answerAt, found]

theorem stopsAfter_zero (script : Script) : script.stopsAfter 0 = script.cancelled := by
  cases schedule : script.cancelAfter with
  | none => simp [stopsAfter, schedule]
  | some moment =>
    have missed : (script.requests.length < moment &&
        moment ≤ script.requests.length + 0 : Bool) = false := by
      simp only [Bool.and_eq_false_iff, decide_eq_false_iff_not]
      omega
    rw [stopsAfter, schedule, Option.any_some, missed, Bool.or_false]

theorem bind_eq (script : Script) :
    script.bind =
      (match script.binds.head?.join with
        | some reason => .error ⟨reason⟩
        | none => .ok (),
      { script with binds := script.binds.tail, bindCalls := script.bindCalls + 1 }) := by
  rcases found : script.binds with _ | ⟨_ | reason, rest⟩ <;> simp [bind, found]

/-! ## Moving on by questions -/

/-- A script has moved on by these questions, its bind calls left aside. -/
structure MovedBy (script : Script) (requests : List NormalizationRequest) (last : Script) :
    Prop where
  requests_eq : last.requests = script.requests ++ requests
  answers_eq : last.answers = script.answers.drop requests.length
  cancelAfter_eq : last.cancelAfter = script.cancelAfter
  /-- A wish to stop stays, and it arrives with the question it is scheduled for. -/
  cancelled_eq : last.cancelled = script.stopsAfter requests.length

theorem MovedBy.refl (script : Script) : script.MovedBy [] script := by
  constructor <;> simp [stopsAfter_zero]

theorem MovedBy.trans {script middle last : Script}
    {first second : List NormalizationRequest}
    (start : script.MovedBy first middle) (finish : middle.MovedBy second last) :
    script.MovedBy (first ++ second) last where
  requests_eq := by rw [finish.requests_eq, start.requests_eq, List.append_assoc]
  answers_eq := by
    rw [finish.answers_eq, start.answers_eq, List.drop_drop, List.length_append]
  cancelAfter_eq := by rw [finish.cancelAfter_eq, start.cancelAfter_eq]
  cancelled_eq := by
    rw [finish.cancelled_eq]
    simp only [stopsAfter, start.cancelled_eq, start.cancelAfter_eq, start.requests_eq,
      List.length_append, Bool.or_assoc]
    cases script.cancelAfter with
    | none => simp
    | some moment =>
      congr 1
      rw [Bool.eq_iff_iff]
      simp only [Option.any_some, Bool.or_eq_true, Bool.and_eq_true, decide_eq_true_eq]
      omega

theorem movedBy_ask (script : Script) (request : NormalizationRequest) :
    script.MovedBy [request] (script.ask request).2 := by
  rw [ask_eq]
  constructor
  · rfl
  · simp
  · rfl
  · cases schedule : script.cancelAfter with
    | none => simp [stopsAfter, schedule]
    | some moment =>
      simp only [stopsAfter, schedule, Option.any_some]
      congr 1
      rw [Bool.eq_iff_iff]
      simp only [Bool.and_eq_true, decide_eq_true_eq, beq_iff_eq, Option.some.injEq,
        List.length_singleton]
      omega

theorem movedBy_asked (script : Script) (requests : List NormalizationRequest) :
    script.MovedBy requests (script.asked requests) := by
  induction requests generalizing script with
  | nil => exact .refl script
  | cons request rest ih => exact (script.movedBy_ask request).trans (ih _)

theorem movedBy_bind (script : Script) : script.MovedBy [] script.bind.2 := by
  rw [bind_eq]
  constructor <;> simp [stopsAfter_zero]

/-! ## Stages -/

def stageAfter (script : Script) : List NormalizationRequest → Stage Unit Script
  | [] => ⟨none, script⟩
  | request :: rest => ⟨some (), script.bind.2.asked (request :: rest)⟩

@[simp]
theorem stageAfter_binding (script : Script) (requests : List NormalizationRequest) :
    (script.stageAfter requests).binding = if requests = [] then none else some () := by
  cases requests <;> rfl

theorem movedBy_stageAfter (script : Script) (requests : List NormalizationRequest) :
    script.MovedBy requests (script.stageAfter requests).state := by
  cases requests with
  | nil => exact .refl script
  | cons request rest => exact script.movedBy_bind.trans (movedBy_asked _ _)

def bound (stage : Stage Unit Script) : Script :=
  match stage.binding with
  | none => stage.state.bind.2
  | some _ => stage.state

def Yields (region : String) (answer : Except RemoteError RawAnswer) (set : ResultSet) : Prop :=
  ∃ raw, answer = .ok raw ∧ raw.interpret region = .ok set

variable {cancelled : Script → Bool} {region : String}

theorem obtain_cases {stage : Stage Unit Script} {binding : Unit} {ready : Script}
    (made : (service.obtain stage.binding).runFrom stage.state = (.ok binding, ready)) :
    ready = bound stage ∧ (stage.binding = none → stage.state.bind.1 = .ok ()) := by
  rcases stage with ⟨_ | _, state⟩
  · rw [Service.obtain_none] at made
    change (state.bind.1.mapError Failure.binding, state.bind.2) = _ at made
    simp only [Prod.mk.injEq] at made
    refine ⟨made.2.symm, fun _ => ?_⟩
    cases outcome : state.bind.1 with
    | error error => simp [outcome] at made
    | ok binding => rfl
  · simp only [Service.obtain_some, Prod.mk.injEq] at made
    exact ⟨made.2.symm, by simp⟩

theorem movedBy_bound (stage : Stage Unit Script) : stage.state.MovedBy [] (bound stage) := by
  rcases stage with ⟨_ | _, state⟩
  · exact state.movedBy_bind
  · exact .refl state

@[simp]
theorem answers_bound (stage : Stage Unit Script) :
    (bound stage).answers = stage.state.answers :=
  (movedBy_bound stage).answers_eq

theorem geocodes_cases {stage next : Stage Unit Script} {query : AddressQuery}
    {request : NormalizationRequest} {set : ResultSet}
    (step : service.Geocodes cancelled region stage query request set next) :
    next = ⟨some (), ((bound stage).ask request).2⟩ ∧
      Yields region (stage.state.answerAt 0) set ∧
      (stage.binding = none → stage.state.bind.1 = .ok ()) := by
  obtain ⟨_, _, made, answered, interpreted⟩ := step
  obtain ⟨rfl, succeeds⟩ := obtain_cases made
  change (bound stage).ask request = _ at answered
  refine ⟨by rw [answered], ⟨_, ?_, interpreted⟩, succeeds⟩
  have outcome := congrArg Prod.fst answered
  simpa only [ask_eq, answerAt, answers_bound] using outcome

theorem eq_asked_of_advances {script : Script} {done : List AddressQuery}
    {requests : List NormalizationRequest} {sets : List ResultSet} {last : Stage Unit Script}
    (advances : service.Advances cancelled region ⟨some (), script⟩ done requests sets last) :
    last = ⟨some (), script.asked requests⟩ := by
  generalize start : (⟨some (), script⟩ : Stage Unit Script) = first at advances
  induction advances generalizing script with
  | nil => exact start.symm
  | cons step others ih =>
    subst start
    exact ih (geocodes_cases step).1.symm

theorem eq_stageAfter_of_advances {script : Script} {done : List AddressQuery}
    {requests : List NormalizationRequest} {sets : List ResultSet} {last : Stage Unit Script}
    (advances : service.Advances cancelled region ⟨none, script⟩ done requests sets last) :
    last = script.stageAfter requests := by
  cases advances with
  | nil => rfl
  | cons step others =>
    obtain ⟨rfl, _, _⟩ := geocodes_cases step
    have reached := eq_asked_of_advances others
    exact reached

theorem yields_of_advances {first last : Stage Unit Script} {done : List AddressQuery}
    {requests : List NormalizationRequest} {sets : List ResultSet}
    (advances : service.Advances cancelled region first done requests sets last) :
    List.Forall₂ (Yields region) (first.state.answers.take done.length) sets := by
  induction advances with
  | nil => simp
  | @cons first second last query rest request requests set sets step others ih =>
    obtain ⟨rfl, ⟨raw, answered, interpreted⟩, _⟩ := geocodes_cases step
    cases found : first.state.answers with
    | nil => simp [answerAt, found] at answered
    | cons answer answers =>
      simp only [answerAt, found, List.getElem?_cons_zero, Option.getD_some] at answered
      simp only [ask_eq, answers_bound, found, List.tail_cons] at ih
      exact .cons ⟨raw, answered, interpreted⟩ ih

theorem movedBy_of_ask {stage : Stage Unit Script} {request : NormalizationRequest}
    {binding : Unit} {ready last : Script} {outcome : Except RemoteError RawAnswer}
    (made : (service.obtain stage.binding).runFrom stage.state = (.ok binding, ready))
    (answered : service.ask binding request ready = (outcome, last)) :
    stage.state.MovedBy [request] last := by
  obtain ⟨rfl, _⟩ := obtain_cases made
  change (bound stage).ask request = _ at answered
  have moved := (movedBy_bound stage).trans (movedBy_ask (bound stage) request)
  rwa [answered] at moved

theorem movedBy_of_stopsAt {stage : Stage Unit Script} {query : AddressQuery}
    {asked : List NormalizationRequest} {failure : Failure} {last : Script}
    (stops : service.StopsAt cancelled region stage query asked failure last) :
    stage.state.MovedBy asked last := by
  cases stops with
  | cancelled _ | invalid _ _ => exact .refl _
  | unbound proceeds accepted unmade failed =>
    change stage.state.bind = _ at failed
    have moved := stage.state.movedBy_bind
    rwa [failed] at moved
  | unanswered proceeds accepted made failed => exact movedBy_of_ask made failed
  | uninterpreted proceeds accepted made answered failed => exact movedBy_of_ask made answered

theorem movedBy_of_course {script last : Script} {addresses : List AddressQuery}
    {requests : List NormalizationRequest} {outcome : Except Failure (List ResultSet)}
    (course : service.Course cancelled region ⟨none, script⟩ addresses requests outcome last) :
    script.MovedBy requests last := by
  generalize start : (⟨none, script⟩ : Stage Unit Script) = first at course
  cases course with
  | finished advances =>
    subst start
    rw [eq_stageAfter_of_advances advances]
    exact movedBy_stageAfter script requests
  | stopped advances stops =>
    subst start
    have moved := movedBy_of_stopsAt stops
    rw [eq_stageAfter_of_advances advances] at moved
    exact (movedBy_stageAfter script _).trans moved

/-! ## Bind calls -/

/-- A script has moved on by so many bind calls, its questions left aside. -/
structure BindsBy (script : Script) (count : Nat) (last : Script) : Prop where
  bindCalls_eq : last.bindCalls = script.bindCalls + count
  binds_eq : last.binds = script.binds.drop count

theorem BindsBy.refl (script : Script) : script.BindsBy 0 script := by
  constructor <;> simp

theorem BindsBy.trans {script middle last : Script} {first second : Nat}
    (start : script.BindsBy first middle) (finish : middle.BindsBy second last) :
    script.BindsBy (first + second) last where
  bindCalls_eq := by rw [finish.bindCalls_eq, start.bindCalls_eq, Nat.add_assoc]
  binds_eq := by rw [finish.binds_eq, start.binds_eq, List.drop_drop]

theorem BindsBy.unique {script last : Script} {first second : Nat}
    (binds : script.BindsBy first last) (binds' : script.BindsBy second last) :
    first = second :=
  Nat.add_left_cancel (binds.bindCalls_eq.symm.trans binds'.bindCalls_eq)

theorem bindsBy_bind (script : Script) : script.BindsBy 1 script.bind.2 := by
  rw [bind_eq]
  constructor <;> simp

theorem bindsBy_ask (script : Script) (request : NormalizationRequest) :
    script.BindsBy 0 (script.ask request).2 := by
  rw [ask_eq]
  constructor <;> simp

def withBinds (script : Script) (binds : List (Option String)) (bindCalls : Nat) : Script :=
  { script with binds, bindCalls }

/-- The caller's wish to stop does not depend on bind calls. -/
def OverlooksBinds (cancelled : Script → Bool) : Prop :=
  ∀ script binds bindCalls, cancelled (script.withBinds binds bindCalls) = cancelled script

def ignoringBinds (overlooks : OverlooksBinds cancelled) (binds : List (Option String))
    (bindCalls : Nat) :
    service.Projection cancelled service cancelled where
  state script := script.withBinds binds bindCalls
  binding := id
  ask_eq _ request script := by
    change (script.withBinds binds bindCalls).ask request = ((script.ask request).1, _)
    simp [ask_eq, answerAt, withBinds, service]
  stopped_eq script := overlooks script binds bindCalls

theorem bindsBy_runFrom_bound (overlooks : OverlooksBinds cancelled) (script : Script)
    (addresses : List AddressQuery) :
    script.BindsBy 0
      (service.runFrom cancelled region ⟨some (), script⟩ addresses).2 := by
  let forgetful := ignoringBinds overlooks script.binds script.bindCalls
  have same : service.runFrom cancelled region ⟨some (), script⟩ addresses =
      (service.runFrom cancelled region ⟨some (), script⟩ addresses).map id forgetful.state :=
    forgetful.runFrom_some region () script addresses
  rw [same]
  constructor <;> simp [forgetful, ignoringBinds, withBinds]

theorem bindsBy_runAsking (overlooks : OverlooksBinds cancelled)
    (rest : List AddressQuery) (request : NormalizationRequest) (ready : Script) :
    ready.BindsBy 0 (service.runAsking cancelled region rest () request ready).2 := by
  have kept : ready.BindsBy 0 (service.ask () request ready).2 := ready.bindsBy_ask request
  rw [Service.runAsking]
  rcases answered : service.ask () request ready with ⟨error | answer, next⟩ <;>
    rw [answered] at kept
  · exact kept
  dsimp only at kept ⊢
  cases answer.interpret region with
  | error error => exact kept
  | ok set => exact kept.trans (bindsBy_runFrom_bound overlooks next rest)

/-- Nothing that happens behind the first address matters to the bind calls. -/
theorem bindsBy_runFrom_unbound {cancelled : Script → Bool}
    (overlooks : OverlooksBinds cancelled) (region : String) (script : Script)
    (addresses : List AddressQuery) :
    script.BindsBy (callsToBind (cancelled script) addresses)
      (service.runFrom cancelled region ⟨none, script⟩ addresses).2 := by
  cases addresses with
  | nil =>
    have idle : callsToBind (cancelled script) [] = 0 := by simp [callsToBind]
    rw [idle]
    exact .refl script
  | cons query rest =>
    rw [Service.runFrom_cons, callsToBind]
    cases cancelled script with
    | true => exact .refl script
    | false =>
      simp only [Bool.false_eq_true, if_false, Bool.not_false, Bool.true_and,
        AddressQuery.question, List.head?_cons, Option.any_some]
      cases query.validate with
      | error error => exact .refl script
      | ok address =>
        have bound : script.BindsBy 1 (service.bind script).2 := bindsBy_bind script
        rw [Service.obtain_none]
        rcases made : service.bind script with ⟨error | _, ready⟩ <;> rw [made] at bound
        · exact bound
        · exact bound.trans (bindsBy_runAsking overlooks rest _ ready)

end Script

end Geocoding
