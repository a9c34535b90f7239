import Geocoding.Proofs.Batch.Binding

/-!
# The questions and the outcome of a batch

A batch comes to all of its result sets or to none.  Its questions are those of its
first addresses, and what it comes to depends on nothing beyond the address it
fails with and the answers it has taken.
-/

namespace Geocoding

namespace Script

variable {script : Script} {batch : Batch} {region : String}

theorem obstacle_withAnswers (answers : List (Except RemoteError RawAnswer)) (position : Nat)
    (query : AddressQuery) :
    { script with answers }.obstacle batch position query =
      script.obstacle batch position query := by
  simp [obstacle, bindingAt, bind_eq]

theorem verdict_congr {position : Nat} {query : AddressQuery}
    {answers : List (Except RemoteError RawAnswer)}
    (same : answers[position]? = script.answers[position]?) :
    { script with answers }.verdict region batch position query =
      script.verdict region batch position query := by
  simp [verdict, obstacle_withAnswers, answerAt, same]

/-- A failure in front of the question does not depend on any answer, and one
behind it depends on that answer alone. -/
theorem verdict_withAnswers {position : Nat} {query : AddressQuery} {failure : Failure}
    {answers : List (Except RemoteError RawAnswer)}
    (failed : script.verdict region batch position query = .error failure)
    (seen : 0 < failure.questions → answers[position]? = script.answers[position]?) :
    { script with answers }.verdict region batch position query = .error failure := by
  rcases obstacle_of_verdict failed with hindered | ⟨_, asked, _⟩
  · simp [verdict, obstacle_withAnswers, hindered]
  · rw [verdict_congr (seen (by omega)), failed]

/-- A batch fails with the same address whatever addresses stand behind it, and
whatever answers the script holds beyond those taken. -/
theorem FailsAt.withAnswers {position : Nat} {failure : Failure}
    (fails : script.FailsAt region batch position failure)
    {addresses : List AddressQuery} {answers : List (Except RemoteError RawAnswer)}
    (sameAddresses : addresses.take (position + 1) = batch.addresses.take (position + 1))
    (sameAnswers : answers.take (position + failure.questions) =
      script.answers.take (position + failure.questions)) :
    { script with answers }.FailsAt region { batch with addresses } position failure := by
  have sameAddress (index : Nat) (le : index ≤ position) :
      addresses[index]? = batch.addresses[index]? := by
    have equal := congrArg (·[index]?) sameAddresses
    simpa [List.getElem?_take, Nat.lt_succ_of_le le] using equal
  have sameAnswer (index : Nat) (lt : index < position + failure.questions) :
      answers[index]? = script.answers[index]? := by
    have equal := congrArg (·[index]?) sameAnswers
    simpa [List.getElem?_take, lt] using equal
  constructor
  · intro earlier before
    obtain ⟨query, set, found, geocoded⟩ := fails.geocoded earlier before
    refine ⟨query, set, (sameAddress earlier (Nat.le_of_lt before)).trans found, ?_⟩
    rw [← geocoded]
    exact verdict_congr (sameAnswer earlier (by omega))
  · obtain ⟨query, found, failed⟩ := fails.failed
    refine ⟨query, (sameAddress position (Nat.le_refl _)).trans found, ?_⟩
    exact verdict_withAnswers failed fun asked => sameAnswer position (by omega)

theorem requests_eq_of_length_eq {other : Script} {batch' : Batch} {count : Nat}
    (asked : (script.batchRun region batch).2.requests.length = count)
    (asked' : (other.batchRun region batch').2.requests.length = count)
    (same : batch'.addresses.take count = batch.addresses.take count) :
    (other.batchRun region batch').2.requests = (script.batchRun region batch).2.requests := by
  have questions := map_question_batchRun script region batch
  have questions' := map_question_batchRun other region batch'
  simp only [asked, asked', same] at questions questions'
  exact List.map_injective_iff.mpr (fun _ _ => Except.ok.inj) (questions'.symm.trans questions)

theorem FailsAt.runBatch_eq {position : Nat} {failure : Failure}
    (fails : script.FailsAt region batch position failure)
    {addresses : List AddressQuery} {answers : List (Except RemoteError RawAnswer)}
    (sameAddresses : addresses.take (position + 1) = batch.addresses.take (position + 1))
    (sameAnswers : answers.take (position + failure.questions) =
      script.answers.take (position + failure.questions)) :
    let report := (script.runBatch region batch).1
    let other := ({ script with answers }.runBatch region { batch with addresses }).1
    other.outcome = report.outcome ∧ other.requests = report.requests ∧
      other.bindCalls = report.bindCalls := by
  have fails' := fails.withAnswers sameAddresses sameAnswers
  have failed := batchRun_eq_error_iff.mpr ⟨position, fails⟩
  have failed' := batchRun_eq_error_iff.mpr ⟨position, fails'⟩
  simp only [runBatch_requests, runBatch_outcome, runBatch_bindCalls]
  refine ⟨by rw [failed, failed'], ?_, ?_⟩
  · have within : position + failure.questions ≤ position + 1 :=
      Nat.add_le_add_left failure.questions_le_one position
    have taken := congrArg (List.take (position + failure.questions)) sameAddresses
    rw [List.take_take, List.take_take, Nat.min_eq_left within] at taken
    exact requests_eq_of_length_eq fails.length_requests fails'.length_requests taken
  · have sameHead : addresses.head? = batch.addresses.head? := by
      simpa [List.head?_take] using congrArg List.head? sameAddresses
    have sameOpens : Batch.opens { batch with addresses } = batch.opens := by
      simp only [Batch.opens, sameHead]
    rw [(bindsBy_batchRun _ region _).bindCalls_eq, (bindsBy_batchRun _ region _).bindCalls_eq,
      Batch.bindCalls, Batch.bindCalls, sameOpens]

/-- All or nothing, with the questions of a batch and the reach of its failure.  The
first questions of a batch are asked in order, each once, up to some address.  On
success that is the last one, and each answer makes the result set of its address.
Otherwise there is one address that the batch fails with, and neither the addresses
behind it nor the answers behind those taken make a difference. -/
theorem runBatch_allOrNothing (script : Script) (region : String) (batch : Batch) :
    let report := (script.runBatch region batch).1
    let asked := report.requests.length
    asked ≤ batch.addresses.length ∧
      (batch.addresses.take asked).map AddressQuery.question = report.requests.map .ok ∧
      (∀ result, report.outcome = .ok result →
        asked = batch.addresses.length ∧ result.results.length = batch.addresses.length ∧
          List.Forall₂ (Yields region) (script.answers.take asked) result.results) ∧
      ∀ failure, report.outcome = .error failure →
        ∃ position, script.FailsAt region batch position failure ∧
          asked = position + failure.questions ∧
          ∀ addresses answers,
            addresses.take (position + 1) = batch.addresses.take (position + 1) →
            answers.take asked = script.answers.take asked →
            let other := ({ script with answers }.runBatch region { batch with addresses }).1
            other.outcome = report.outcome ∧ other.requests = report.requests ∧
              other.bindCalls = report.bindCalls := by
  simp only [runBatch_requests, runBatch_error_iff, runBatch_ok_iff, runBatch_bindCalls]
  refine ⟨?_, map_question_batchRun script region batch, ?_, ?_⟩
  · have counted := congrArg List.length (map_question_batchRun script region batch)
    simp only [List.length_map, List.length_take] at counted
    omega
  · intro result succeeded
    obtain ⟨counted, length, yields, _⟩ := verdict_of_batchRun succeeded
    rw [counted]
    exact ⟨rfl, length, yields⟩
  · intro failure failed
    obtain ⟨position, fails, counted⟩ := failsAt_of_batchRun failed
    refine ⟨position, fails, counted, ?_⟩
    intro addresses answers sameAddresses sameAnswers
    rw [counted] at sameAnswers
    obtain ⟨outcome, requests, bindCalls⟩ := fails.runBatch_eq sameAddresses sameAnswers
    simp only [runBatch_requests, runBatch_bindCalls] at requests bindCalls
    exact ⟨outcome, requests, bindCalls⟩

end Script

end Geocoding
