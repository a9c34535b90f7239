import Geocoding.Proofs.Batch.Binding
import Geocoding.Proofs.Batch.Watch

/-!
# The bindings of a session

A session under watch shows which bind call each batch makes and which binding its
questions go over.  A batch binds when its first address is ready to be asked for,
and never again; the binding it gets is used by no other batch.
-/

namespace Geocoding

/-- What is known of one batch of a session under watch. -/
structure BatchAccount where
  before : Script
  report : BatchReport
  calls : List Call

namespace Script

def watchedStart (watched : Watched Script) (batch : Batch) : Watched Script :=
  { watched with state := watched.state.startBatch batch, calls := [] }

def watchBatch (watched : Watched Script) (region : String) (batch : Batch) :
    BatchAccount × Watched Script :=
  let (outcome, after) := service.watched.runFrom (fun before => batch.flag before.state) region
    ⟨none, watchedStart watched batch⟩ batch.addresses
  ({ before := watched.state, report := reportOf (outcome, after.state), calls := after.calls },
    after)

def watchSession (region : String) : Watched Script → List Batch → List BatchAccount
  | _, [] => []
  | watched, batch :: rest =>
      let (account, after) := watchBatch watched region batch
      account :: watchSession region after rest

variable {script : Script} {batch : Batch} {region : String}

theorem bind_startBatch (script : Script) (batch : Batch) :
    (script.startBatch batch).bind.1 = script.bind.1 := by
  simp [bind_eq, startBatch]

theorem runBatch_watched (watched : Watched Script) (region : String) (batch : Batch) :
    let run := watchBatch watched region batch
    run.1.report = (watched.state.runBatch region batch).1 ∧
      run.2.state = (watched.state.runBatch region batch).2 ∧
      service.CallsMade (watchedStart watched batch) run.1.report.requests run.2 := by
  obtain ⟨requests, outcome, last, course⟩ := service.watched.exists_course
    (fun before => batch.flag before.state) region ⟨none, watchedStart watched batch⟩
    batch.addresses
  have unwatched := Service.Projection.course (service.bindsAlike_unwatching batch.flag _) course
  have run : watched.state.batchRun region batch = (outcome, last.state) := unwatched.runFrom_eq
  have asked : last.state.requests = requests := (movedBy_of_course unwatched).requests_eq
  simp only [watchBatch, course.runFrom_eq, runBatch_eq, run, true_and]
  have made := Service.callsMade_of_course course
  rwa [← asked] at made

theorem watchBatch_of_not_opens (watched : Watched Script) (region : String) {batch : Batch}
    (closed : batch.opens = false) :
    (watchBatch watched region batch).2 = watchedStart watched batch := by
  have idle : callsToBind (batch.flag (watchedStart watched batch).state) batch.addresses = 0 := by
    rw [watchedStart, callsToBind_startBatch, Batch.bindCalls, closed]
    rfl
  exact service.watched.runFrom_of_callsToBind_eq_zero (fun before => batch.flag before.state)
    region idle

/-- A batch that opens makes its bind call first, and all its questions go over the
binding that it gets. -/
theorem watchBatch_of_opens (watched : Watched Script) (region : String) {batch : Batch}
    (opens : batch.opens = true) :
    let run := watchBatch watched region batch
    run.2.binds = watched.binds + 1 ∧
      run.1.calls = .bind (watched.binds + 1) watched.state.bind.1.isOk ::
        run.1.report.requests.map (.ask (watched.binds + 1)) := by
  obtain ⟨_, state, made⟩ := runBatch_watched watched region batch
  have calls : (watchBatch watched region batch).1.calls =
      (watchBatch watched region batch).2.calls := rfl
  have counted : (watchBatch watched region batch).2.state.bindCalls =
      watched.state.bindCalls + 1 := by
    rw [state, runBatch_eq, (bindsBy_batchRun watched.state region batch).bindCalls_eq,
      Batch.bindCalls, opens]
    rfl
  dsimp only
  generalize watchBatch watched region batch = run at made calls counted ⊢
  rcases run with ⟨account, after⟩
  generalize account.report.requests = requests at made calls ⊢
  cases made with
  | nothing =>
    change watched.state.bindCalls = watched.state.bindCalls + 1 at counted
    omega
  | bound binds called refused =>
    refine ⟨binds, calls.trans ?_⟩
    rw [← bind_startBatch watched.state batch]
    exact called

/-- What a batch of a session owes to its binding. -/
structure BindsLazily (region : String) (batch : Batch) (account : BatchAccount) : Prop where
  once : account.calls.countP Call.isBind = batch.bindCalls
  counted : account.report.bindCalls =
    account.before.bindCalls + account.calls.countP Call.isBind
  idle : batch.opens = false → account.calls = [] ∧ account.report.requests = []
  /-- The bind call is the first of all, and all questions go over its binding. -/
  called : batch.opens = true → ∃ number,
    account.calls = .bind number account.before.bind.1.isOk ::
      account.report.requests.map (.ask number)
  /-- A bind call that fails ends the batch. -/
  refused : ∀ error, batch.opens = true → account.before.bind.1 = .error error →
    account.report.outcome = .error (.binding error) ∧ account.report.requests = []
  /-- Nothing but the bind call for the first address fails in this way. -/
  refusal : ∀ error, account.report.outcome = .error (.binding error) →
    batch.opens = true ∧ account.before.bind.1 = .error error ∧
      account.before.FailsAt region batch 0 (.binding error)

def bindSucceeds (script : Script) (index : Nat) : Bool :=
  script.binds[index]?.join.isNone

theorem isOk_bind (script : Script) : script.bind.1.isOk = script.bindSucceeds 0 := by
  rw [bind_eq, bindSucceeds, List.head?_eq_getElem?]
  cases script.binds[0]?.join <;> rfl

theorem filter_isBind_watchBatch (watched : Watched Script) (region : String) (batch : Batch) :
    (watchBatch watched region batch).1.calls.filter Call.isBind =
      (List.range batch.bindCalls).map fun index =>
        .bind (watched.binds + index + 1) (watched.state.bindSucceeds index) := by
  cases opens : batch.opens with
  | false =>
    have calls : (watchBatch watched region batch).1.calls = [] :=
      congrArg Watched.calls (watchBatch_of_not_opens watched region opens)
    simp [calls, Batch.bindCalls, opens]
  | true =>
    obtain ⟨_, calls⟩ := watchBatch_of_opens watched region opens
    have questions (number : Nat) (requests : List NormalizationRequest) :
        (requests.map (Call.ask number)).filter Call.isBind = [] :=
      List.filter_eq_nil_iff.mpr (by simp [Call.isBind])
    rw [calls, List.filter_cons_of_pos rfl, questions, isOk_bind, Batch.bindCalls, opens]
    rfl

theorem number_of_mem_watchBatch {watched : Watched Script} {call : Call}
    (called : call ∈ (watchBatch watched region batch).1.calls) :
    call.number = watched.binds + 1 ∧
      (watchBatch watched region batch).2.binds = watched.binds + 1 := by
  cases opens : batch.opens with
  | false =>
    have calls : (watchBatch watched region batch).1.calls = [] :=
      congrArg Watched.calls (watchBatch_of_not_opens watched region opens)
    simp [calls] at called
  | true =>
    obtain ⟨binds, calls⟩ := watchBatch_of_opens watched region opens
    refine ⟨?_, binds⟩
    rw [calls, List.mem_cons, List.mem_map] at called
    rcases called with rfl | ⟨request, _, rfl⟩ <;> rfl

theorem watchBatch_after (watched : Watched Script) (region : String) (batch : Batch) :
    let after := (watchBatch watched region batch).2
    after.binds = watched.binds + batch.bindCalls ∧
      ∀ index, after.state.bindSucceeds index =
        watched.state.bindSucceeds (batch.bindCalls + index) := by
  constructor
  · cases opens : batch.opens with
    | false =>
      simp [watchBatch_of_not_opens watched region opens, watchedStart, Batch.bindCalls, opens]
    | true => simp [watchBatch_of_opens watched region opens, Batch.bindCalls, opens]
  · intro index
    obtain ⟨_, state, _⟩ := runBatch_watched watched region batch
    rw [state, runBatch_eq, bindSucceeds,
      (bindsBy_batchRun watched.state region batch).binds_eq, List.getElem?_drop]
    rfl

theorem runBatch_eq_binding_iff {error : BindingError} :
    (script.runBatch region batch).1.outcome = .error (.binding error) ↔
      batch.opens = true ∧ script.bind.1 = .error error := by
  rw [runBatch_error_iff, batchRun_eq_error_iff]
  simp only [failsAt_binding_iff, exists_eq_left]

theorem requests_eq_nil_of_binding {error : BindingError}
    (refused : (script.runBatch region batch).1.outcome = .error (.binding error)) :
    (script.runBatch region batch).1.requests = [] := by
  obtain ⟨opens, failed⟩ := runBatch_eq_binding_iff.mp refused
  have fails : script.FailsAt region batch 0 (.binding error) :=
    failsAt_binding_iff.mpr ⟨rfl, opens, failed⟩
  rw [runBatch_requests]
  exact List.eq_nil_of_length_eq_zero fails.length_requests

theorem bindsLazily_watchBatch (watched : Watched Script) (region : String) (batch : Batch) :
    BindsLazily region batch (watchBatch watched region batch).1 := by
  obtain ⟨report, _, _⟩ := runBatch_watched watched region batch
  have once : (watchBatch watched region batch).1.calls.countP Call.isBind = batch.bindCalls := by
    rw [List.countP_eq_length_filter, filter_isBind_watchBatch, List.length_map, List.length_range]
  refine ⟨once, ?_, ?_, ?_, ?_, ?_⟩
  · rw [once, report, runBatch_bindCalls]
    exact (bindsBy_batchRun watched.state region batch).bindCalls_eq
  · intro closed
    have left := watchBatch_of_not_opens watched region closed
    exact ⟨congrArg Watched.calls left, congrArg (·.state.requests) left⟩
  · intro opens
    exact ⟨_, (watchBatch_of_opens watched region opens).2⟩
  · intro error opens refused
    have outcome : (watched.state.runBatch region batch).1.outcome = .error (.binding error) :=
      runBatch_eq_binding_iff.mpr ⟨opens, refused⟩
    rw [report]
    exact ⟨outcome, requests_eq_nil_of_binding outcome⟩
  · intro error refused
    rw [report, runBatch_eq_binding_iff] at refused
    exact ⟨refused.1, refused.2, failsAt_binding_iff.mpr ⟨rfl, refused⟩⟩

theorem report_watchSession (watched : Watched Script) (region : String) (batches : List Batch) :
    (watchSession region watched batches).map BatchAccount.report =
      watched.state.runSession region batches := by
  induction batches generalizing watched with
  | nil => rfl
  | cons batch rest ih =>
    obtain ⟨report, state, _⟩ := runBatch_watched watched region batch
    simp only [watchSession, runSession, List.map_cons, ih, report, state]

theorem bindsLazily_watchSession (watched : Watched Script) (region : String)
    (batches : List Batch) :
    List.Forall₂ (BindsLazily region) batches (watchSession region watched batches) := by
  induction batches generalizing watched with
  | nil => exact .nil
  | cons batch rest ih => exact .cons (bindsLazily_watchBatch watched region batch) (ih _)

theorem lt_number_of_mem_watchSession {watched : Watched Script} {batches : List Batch}
    {account : BatchAccount} (run : account ∈ watchSession region watched batches)
    {call : Call} (called : call ∈ account.calls) : watched.binds < call.number := by
  induction batches generalizing watched with
  | nil => cases run
  | cons batch rest ih =>
    rw [watchSession, List.mem_cons] at run
    rcases run with rfl | later
    · obtain ⟨number, _⟩ := number_of_mem_watchBatch called
      omega
    · obtain ⟨binds, _⟩ := watchBatch_after watched region batch
      have lt := ih later
      omega

/-- No two batches of a session share a binding. -/
theorem pairwise_watchSession (watched : Watched Script) (region : String)
    (batches : List Batch) :
    (watchSession region watched batches).Pairwise fun earlier later =>
      ∀ call ∈ earlier.calls, ∀ call' ∈ later.calls, call.number < call'.number := by
  induction batches generalizing watched with
  | nil => exact .nil
  | cons batch rest ih =>
    refine .cons (fun later run call called call' called' => ?_) (ih _)
    obtain ⟨number, binds⟩ := number_of_mem_watchBatch called
    have lt : (watchBatch watched region batch).2.binds < call'.number :=
      lt_number_of_mem_watchSession run called'
    omega

/-- The bind calls of a session are numbered in order and turn out as its script says. -/
theorem binds_watchSession (watched : Watched Script) (region : String) (batches : List Batch) :
    (watchSession region watched batches).flatMap (·.calls.filter Call.isBind) =
      (List.range (batches.countP Batch.opens)).map fun index =>
        .bind (watched.binds + index + 1) (watched.state.bindSucceeds index) := by
  induction batches generalizing watched with
  | nil => rfl
  | cons batch rest ih =>
    obtain ⟨binds, succeeds⟩ := watchBatch_after watched region batch
    have total : (batch :: rest).countP Batch.opens =
        batch.bindCalls + rest.countP Batch.opens := by
      rw [List.countP_cons, Nat.add_comm, Batch.bindCalls]
    rw [watchSession, List.flatMap_cons, filter_isBind_watchBatch, ih, total, List.range_add,
      List.map_append, List.map_map]
    congr 2
    funext index
    simp only [Function.comp_apply, binds, succeeds, Nat.add_assoc]

theorem BindsLazily.once_of_requests {account : BatchAccount}
    (lazily : BindsLazily region batch account) (asked : account.report.requests ≠ []) :
    account.calls.countP Call.isBind = 1 := by
  rw [lazily.once, Batch.bindCalls]
  cases opens : batch.opens with
  | false => exact absurd (lazily.idle opens).2 asked
  | true => rfl

theorem exists_bindsLazily_of_mem {batches : List Batch} {session : List BatchAccount}
    (lazily : List.Forall₂ (BindsLazily region) batches session) {account : BatchAccount}
    (run : account ∈ session) : ∃ batch, BindsLazily region batch account := by
  induction lazily with
  | nil => cases run
  | @cons batch first _ _ one others ih =>
    rcases List.mem_cons.mp run with rfl | later
    · exact ⟨batch, one⟩
    · exact ih later

/-- The bindings of a session.  Watching it changes nothing.  Each batch makes one bind
call if it opens and none otherwise, and puts all its questions over the binding it
gets, which no other batch uses.  The calls of the whole session take the outcomes of
the script in order, and there are no more of them than batches. -/
theorem runSession_bindsLazily (script : Script) (region : String) (batches : List Batch) :
    let session := watchSession region ⟨script, 0, []⟩ batches
    let bindCalls := session.flatMap (·.calls.filter Call.isBind)
    session.map BatchAccount.report = script.runSession region batches ∧
      List.Forall₂ (BindsLazily region) batches session ∧
      (session.Pairwise fun earlier later =>
        ∀ call ∈ earlier.calls, ∀ call' ∈ later.calls, call.number < call'.number) ∧
      (∀ account ∈ session, account.report.requests ≠ [] →
        account.calls.countP Call.isBind = 1) ∧
      bindCalls = (List.range (batches.countP Batch.opens)).map (fun index =>
        .bind (index + 1) (script.bindSucceeds index)) ∧
      bindCalls.length ≤ batches.length := by
  intro session bindCalls
  have lazily : List.Forall₂ (BindsLazily region) batches session :=
    bindsLazily_watchSession _ region batches
  have inOrder : bindCalls = (List.range (batches.countP Batch.opens)).map fun index =>
      .bind (index + 1) (script.bindSucceeds index) := by
    simpa using binds_watchSession ⟨script, 0, []⟩ region batches
  refine ⟨report_watchSession _ region batches, lazily, pairwise_watchSession _ region batches,
    ?_, inOrder, ?_⟩
  · intro account run asked
    obtain ⟨batch, one⟩ := exists_bindsLazily_of_mem lazily run
    exact one.once_of_requests asked
  · rw [inOrder, List.length_map, List.length_range]
    exact List.countP_le_length

end Script

end Geocoding
