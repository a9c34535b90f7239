import Geocoding.Proofs.Batch.Binding

/-!
# Cancelled batches

A batch that the caller cancels is the batch that nobody cancels, cut off in front of
an address.  The cut comes before the first address, or right behind the question
during which the caller asks to stop; there is none if the batch is over by then.
-/

namespace Geocoding

def Batch.cancellable (batch : Batch) : Batch :=
  { batch with plain := false }

def Batch.undisturbed (batch : Batch) : Batch :=
  { batch with plain := true }

theorem Batch.stopsBefore_cancellable (batch : Batch) (position : Nat) :
    batch.cancellable.stopsBefore position = true ↔
      batch.cancelled = true ∨
        ∃ moment, batch.cancelAfter = some moment ∧ 0 < moment ∧ moment ≤ position := by
  simp [Batch.stopsBefore, Batch.cancellable, Option.any_eq_true]

namespace Script

variable {script : Script} {batch : Batch} {region : String}

theorem verdict_undisturbed {position : Nat} {query : AddressQuery}
    (proceeds : batch.cancellable.stopsBefore position = false) :
    script.verdict region batch.undisturbed position query =
      script.verdict region batch.cancellable position query := by
  have never : batch.undisturbed.stopsBefore position = false := rfl
  simp [verdict, obstacle, never, proceeds]

/-- A run in which no address is cut off is the undisturbed run. -/
theorem batchRun_undisturbed
    (uncut : (script.batchRun region batch.cancellable).1 ≠ .error .cancelled) :
    script.batchRun region batch.cancellable = script.batchRun region batch.undisturbed := by
  obtain ⟨requests, course, _⟩ := script.exists_course_batchRun region batch.cancellable
  exact (course.uncancelled uncut).runFrom_eq.symm

theorem FailsAt.le_of_undisturbed {first second : Nat} {failure other : Failure}
    (cut : script.FailsAt region batch.cancellable first failure)
    (free : script.FailsAt region batch.undisturbed second other) : first ≤ second := by
  by_contra before
  obtain ⟨query, set, found, geocoded⟩ := cut.geocoded second (by omega)
  have proceeds := stopsBefore_of_obstacle_eq_none (verdict_eq_ok_iff.mp geocoded).1
  rw [← verdict_undisturbed proceeds] at geocoded
  exact free.not_geocoded found geocoded

theorem length_requests_le_undisturbed (script : Script) (region : String) (batch : Batch) :
    (script.batchRun region batch.cancellable).2.requests.length ≤
      (script.batchRun region batch.undisturbed).2.requests.length := by
  by_cases uncut : (script.batchRun region batch.cancellable).1 = .error .cancelled
  · obtain ⟨position, fails, counted⟩ := failsAt_of_batchRun uncut
    have asked : (script.batchRun region batch.cancellable).2.requests.length = position := counted
    rw [asked]
    cases free : (script.batchRun region batch.undisturbed).1 with
    | error failure =>
      obtain ⟨position', fails', counted'⟩ := failsAt_of_batchRun free
      have le := fails.le_of_undisturbed fails'
      omega
    | ok sets =>
      obtain ⟨query, found, _⟩ := fails.failed
      obtain ⟨inside, _⟩ := List.getElem?_eq_some_iff.mp found
      rw [(verdict_of_batchRun free).1]
      exact Nat.le_of_lt inside
  · exact Nat.le_of_eq (by rw [batchRun_undisturbed uncut])

theorem requests_prefix_undisturbed (script : Script) (region : String) (batch : Batch) :
    (script.batchRun region batch.cancellable).2.requests <+:
      (script.batchRun region batch.undisturbed).2.requests := by
  have le := length_requests_le_undisturbed script region batch
  have cut := map_question_batchRun script region batch.cancellable
  have free := map_question_batchRun script region batch.undisturbed
  simp only at cut free
  generalize (script.batchRun region batch.cancellable).2.requests = asked at le cut ⊢
  generalize (script.batchRun region batch.undisturbed).2.requests = whole at le free ⊢
  have injective : Function.Injective
      (Except.ok : NormalizationRequest → Except Invalidation NormalizationRequest) :=
    fun _ _ => Except.ok.inj
  rw [List.prefix_iff_eq_take]
  apply injective.list_map
  calc asked.map Except.ok = (batch.addresses.take asked.length).map AddressQuery.question :=
        cut.symm
    _ = ((batch.addresses.take whole.length).map AddressQuery.question).take asked.length := by
        rw [← List.map_take, List.take_take, Nat.min_eq_left le]
    _ = (whole.map Except.ok).take asked.length := congrArg (List.take asked.length) free
    _ = (whole.take asked.length).map Except.ok := List.map_take.symm

theorem stopsBefore_of_lt_length_requests {position : Nat}
    (begun : position < (script.batchRun region batch).2.requests.length) :
    batch.stopsBefore position = false := by
  cases outcome : (script.batchRun region batch).1 with
  | ok sets =>
    obtain ⟨counted, _, _, geocoded⟩ := verdict_of_batchRun outcome
    obtain ⟨query, set, _, _, verdict⟩ := geocoded position (by omega)
    exact stopsBefore_of_obstacle_eq_none (verdict_eq_ok_iff.mp verdict).1
  | error failure =>
    obtain ⟨last, fails, counted⟩ := failsAt_of_batchRun outcome
    rcases Nat.lt_or_ge position last with before | after
    · obtain ⟨query, set, _, verdict⟩ := fails.geocoded position before
      exact stopsBefore_of_obstacle_eq_none (verdict_eq_ok_iff.mp verdict).1
    · have few := failure.questions_le_one
      obtain rfl : position = last := by omega
      obtain ⟨query, _, failed⟩ := fails.failed
      rcases obstacle_of_verdict failed with hindered | ⟨free, _, _⟩
      · have unasked := questions_of_obstacle hindered
        omega
      · exact stopsBefore_of_obstacle_eq_none free

/-- A cut run has asked about the addresses in front of the cut and no other, and all
of them were geocoded. -/
theorem cut_of_batchRun
    (cut : (script.batchRun region batch.cancellable).1 = .error .cancelled) :
    let asked := (script.batchRun region batch.cancellable).2.requests.length
    asked < batch.addresses.length ∧ batch.cancellable.stopsBefore asked = true ∧
      ∀ position < asked, batch.cancellable.stopsBefore position = false ∧
        ∃ set, Yields region (script.answerAt position) set := by
  obtain ⟨last, fails, counted⟩ := failsAt_of_batchRun cut
  have asked : (script.batchRun region batch.cancellable).2.requests.length = last := counted
  obtain ⟨query, found, failed⟩ := fails.failed
  obtain ⟨inside, _⟩ := List.getElem?_eq_some_iff.mp found
  rw [asked]
  refine ⟨inside, ?_, fun position before => ?_⟩
  · exact verdict_eq_cancelled_iff.mp failed
  · obtain ⟨query, set, _, geocoded⟩ := fails.geocoded position before
    obtain ⟨free, yields⟩ := verdict_eq_ok_iff.mp geocoded
    exact ⟨stopsBefore_of_obstacle_eq_none free, set, yields⟩

theorem cancelled_or_eq_of_cut
    (cut : (script.batchRun region batch.cancellable).1 = .error .cancelled) :
    batch.cancelled = true ∨
      batch.cancelAfter = some (script.batchRun region batch.cancellable).2.requests.length ∧
        0 < (script.batchRun region batch.cancellable).2.requests.length := by
  obtain ⟨_, stopped, earlier⟩ := cut_of_batchRun cut
  rcases (batch.stopsBefore_cancellable _).mp stopped with cancelled | ⟨moment, scheduled, positive,
    reached⟩
  · exact .inl cancelled
  · rcases Nat.lt_or_eq_of_le reached with before | rfl
    · have proceeds := (earlier moment before).1
      rw [(batch.stopsBefore_cancellable moment).mpr
        (.inr ⟨moment, scheduled, positive, Nat.le_refl moment⟩)] at proceeds
      cases proceeds
    · exact .inr ⟨scheduled, positive⟩

theorem requests_eq_nil_of_cancelled (cancelled : batch.cancelled = true) :
    (script.batchRun region batch.cancellable).2.requests = [] := by
  by_contra some_asked
  have proceeds := stopsBefore_of_lt_length_requests (List.length_pos_iff.mpr some_asked)
  rw [(batch.stopsBefore_cancellable 0).mpr (.inl cancelled)] at proceeds
  cases proceeds

theorem stopsBefore_of_uncut {position : Nat}
    (uncut : (script.batchRun region batch.cancellable).1 ≠ .error .cancelled)
    (inside : position < batch.addresses.length)
    (reached : position ≤ (script.batchRun region batch.cancellable).2.requests.length)
    (answered : ∀ earlier < position, ∃ set, Yields region (script.answerAt earlier) set) :
    batch.cancellable.stopsBefore position = false := by
  cases outcome : (script.batchRun region batch.cancellable).1 with
  | ok sets =>
    obtain ⟨_, _, _, geocoded⟩ := verdict_of_batchRun outcome
    obtain ⟨query, set, _, _, verdict⟩ := geocoded position inside
    exact stopsBefore_of_obstacle_eq_none (verdict_eq_ok_iff.mp verdict).1
  | error failure =>
    obtain ⟨last, fails, counted⟩ := failsAt_of_batchRun outcome
    obtain ⟨query, _, failed⟩ := fails.failed
    rcases Nat.lt_trichotomy position last with before | rfl | after
    · obtain ⟨query, set, _, geocoded⟩ := fails.geocoded position before
      exact stopsBefore_of_obstacle_eq_none (verdict_eq_ok_iff.mp geocoded).1
    · by_contra stopped
      rw [verdict_eq_cancelled_iff.mpr (by simpa using stopped)] at failed
      cases failed
      exact uncut outcome
    · obtain ⟨set, yields⟩ := answered last after
      rcases obstacle_of_verdict failed with hindered | ⟨_, _, barren⟩
      · have unasked := questions_of_obstacle hindered
        omega
      · exact absurd yields (barren set)

theorem length_requests_le_moment {moment : Nat} (scheduled : batch.cancelAfter = some moment)
    (positive : 0 < moment) :
    (script.batchRun region batch.cancellable).2.requests.length ≤ moment := by
  by_contra later
  have proceeds := stopsBefore_of_lt_length_requests (Nat.lt_of_not_le later)
  rw [(batch.stopsBefore_cancellable moment).mpr
    (.inr ⟨moment, scheduled, positive, Nat.le_refl moment⟩)] at proceeds
  cases proceeds

/-- A batch is cut just if the caller's wish to stop comes in time for another address. -/
theorem batchRun_cancelled_iff :
    (script.batchRun region batch.cancellable).1 = .error .cancelled ↔
      batch.cancelled = true ∧ batch.addresses ≠ [] ∨
        ∃ moment, batch.cancelAfter = some moment ∧ 0 < moment ∧
          moment ≤ (script.batchRun region batch.undisturbed).2.requests.length ∧
          (∀ position < moment, ∃ set, Yields region (script.answerAt position) set) ∧
          moment < batch.addresses.length := by
  constructor
  · intro cut
    obtain ⟨inside, _, geocoded⟩ := cut_of_batchRun cut
    rcases cancelled_or_eq_of_cut cut with cancelled | ⟨scheduled, positive⟩
    · exact .inl ⟨cancelled, List.ne_nil_of_length_pos (by omega)⟩
    · refine .inr ⟨_, scheduled, positive, length_requests_le_undisturbed script region batch, ?_,
        inside⟩
      exact fun position before => (geocoded position before).2
  · intro wished
    by_contra uncut
    rw [← batchRun_undisturbed uncut] at wished
    rcases wished with ⟨cancelled, nonempty⟩ | ⟨moment, scheduled, positive, reached, answered,
      inside⟩
    · have proceeds := stopsBefore_of_uncut uncut (List.length_pos_iff.mpr nonempty)
        (Nat.zero_le _) (fun _ before => absurd before (Nat.not_lt_zero _))
      rw [(batch.stopsBefore_cancellable 0).mpr (.inl cancelled)] at proceeds
      cases proceeds
    · have proceeds := stopsBefore_of_uncut uncut inside reached answered
      rw [(batch.stopsBefore_cancellable moment).mpr
        (.inr ⟨moment, scheduled, positive, Nat.le_refl moment⟩)] at proceeds
      cases proceeds

theorem bindCalls_eq_of_cancelled (cancelled : batch.cancelled = true) :
    (script.batchRun region batch.cancellable).2.bindCalls = script.bindCalls := by
  have idle : batch.cancellable.bindCalls = 0 := by
    simp [Batch.bindCalls, Batch.opens, Batch.cancellable, cancelled]
  rw [(bindsBy_batchRun script region _).bindCalls_eq, idle, Nat.add_zero]

/-- Cancellation cuts the undisturbed run and does nothing else.  No question is begun
once the caller wishes to stop.  The batch counts as cancelled if the caller wished to
stop before its start, or during a question behind which everything was well so far
and another address was to come; otherwise it makes no difference at all. -/
theorem runBatch_cancellation (script : Script) (region : String) (batch : Batch) :
    let cut := script.runBatch region batch.cancellable
    let free := script.runBatch region batch.undisturbed
    (batch.cancelled = true → cut.1.requests = []) ∧
      (∀ moment, batch.cancelAfter = some moment → 0 < moment →
        cut.1.requests.length ≤ moment) ∧
      cut.1.requests <+: free.1.requests ∧
      (cut.1.outcome = .error .cancelled ↔
        batch.cancelled = true ∧ batch.addresses ≠ [] ∨
          ∃ moment, batch.cancelAfter = some moment ∧ 0 < moment ∧
            moment ≤ free.1.requests.length ∧
            (∀ position < moment, ∃ set, Yields region (script.answerAt position) set) ∧
            moment < batch.addresses.length) ∧
      (cut.1.outcome = .error .cancelled →
        batch.cancelled = true ∧ cut.1.requests = [] ∧ cut.1.bindCalls = script.bindCalls ∨
          batch.cancelled = false ∧ batch.cancelAfter = some cut.1.requests.length) ∧
      (cut.1.outcome ≠ .error .cancelled → cut = free) := by
  simp only [ne_eq, runBatch_requests, runBatch_error_iff, runBatch_bindCalls]
  refine ⟨requests_eq_nil_of_cancelled, fun moment => length_requests_le_moment,
    requests_prefix_undisturbed script region batch, batchRun_cancelled_iff, ?_, ?_⟩
  · intro cut
    by_cases cancelled : batch.cancelled = true
    · exact .inl ⟨cancelled, requests_eq_nil_of_cancelled cancelled,
        bindCalls_eq_of_cancelled cancelled⟩
    · rcases cancelled_or_eq_of_cut cut with wished | ⟨scheduled, _⟩
      · exact absurd wished cancelled
      · exact .inr ⟨by simpa using cancelled, scheduled⟩
  · intro uncut
    rw [runBatch_eq, runBatch_eq, batchRun_undisturbed uncut]

end Script

end Geocoding
