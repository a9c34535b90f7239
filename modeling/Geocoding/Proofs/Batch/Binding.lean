import Geocoding.Proofs.Batch.Verdict

/-!
# When a batch binds

Whether a batch makes its one bind call is settled in front of its first address,
by the address itself and by whether the caller has asked to stop before the batch
starts.  Nothing that happens later in the batch matters.
-/

namespace Geocoding

/-- Whether a batch gets as far as to bind to the service: it has an address, the
caller has not asked to stop before, and the first address passes its checks. -/
def Batch.opens (batch : Batch) : Bool :=
  (batch.plain || !batch.cancelled) &&
    batch.addresses.head?.any fun query => query.validate.isOk

def Batch.bindCalls (batch : Batch) : Nat :=
  if batch.opens then 1 else 0

namespace Script

variable {script : Script} {batch : Batch} {region : String}

theorem opens_iff :
    batch.opens = true ↔ batch.stopsBefore 0 = false ∧
      ∃ query request, batch.addresses[0]? = some query ∧ query.question = .ok request := by
  have atStart : batch.stopsBefore 0 = false ↔ (batch.plain || !batch.cancelled) = true := by
    have never : (batch.cancelAfter.any fun moment => 0 < moment && moment ≤ 0) = false := by
      cases batch.cancelAfter with
      | none => rfl
      | some moment =>
        simp only [Option.any_some, Bool.and_eq_false_iff, decide_eq_false_iff_not]
        omega
    rw [Batch.stopsBefore, never]
    cases batch.plain <;> simp
  rw [Batch.opens, Bool.and_eq_true, atStart]
  cases batch.addresses with
  | nil => simp
  | cons query rest => simp [AddressQuery.isOk_validate_iff]

/-- A batch that goes without a binding does so at its first address, which all but
asks its question. -/
theorem failsAt_binding_iff {position : Nat} {error : BindingError} :
    script.FailsAt region batch position (.binding error) ↔
      position = 0 ∧ batch.opens = true ∧ script.bind.1 = .error error := by
  constructor
  · intro fails
    obtain ⟨query, found, failed⟩ := fails.failed
    rcases obstacle_of_verdict failed with hindered | ⟨_, asked, _⟩
    · rcases obstacle_cases hindered with ⟨cause, _⟩ | ⟨proceeds, ⟨_, cause, _⟩ | ⟨cause', request,
        cause, accepted, refused⟩⟩ <;> cases cause
      rcases Nat.eq_zero_or_pos position with rfl | later
      · exact ⟨rfl, opens_iff.mpr ⟨proceeds, query, request, found, accepted⟩, refused⟩
      · rw [bindingAt, if_neg (Nat.ne_of_gt later)] at refused
        cases refused
    · cases asked
  · rintro ⟨rfl, opens, refused⟩
    obtain ⟨proceeds, query, request, found, accepted⟩ := opens_iff.mp opens
    refine ⟨fun _ before => absurd before (Nat.not_lt_zero _), query, found, ?_⟩
    simp [verdict, obstacle, proceeds, accepted, bindingAt, refused]

theorem callsToBind_startBatch (script : Script) (batch : Batch) :
    callsToBind (batch.flag (script.startBatch batch)) batch.addresses = batch.bindCalls := by
  simp [callsToBind, Batch.bindCalls, Batch.opens, Batch.flag, startBatch]

theorem bindsBy_batchRun (script : Script) (region : String) (batch : Batch) :
    script.BindsBy batch.bindCalls (script.batchRun region batch).2 := by
  have start : script.BindsBy 0 (script.startBatch batch) := by constructor <;> simp [startBatch]
  have run : (script.startBatch batch).BindsBy
      (callsToBind (batch.flag (script.startBatch batch)) batch.addresses)
      (script.batchRun region batch).2 :=
    bindsBy_runFrom_unbound batch.overlooksBinds_flag region _ _
  rw [callsToBind_startBatch] at run
  simpa using start.trans run

end Script

end Geocoding
