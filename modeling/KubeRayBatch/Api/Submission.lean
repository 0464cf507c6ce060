/-
# Api.Submission -- what a finished `create_batch` leaves in its row

The row is committed before the job is submitted, so every way in which the
submission can end has to be written back.  `create_batch` writes back a returned
job id, and the failures that are instances of `ConnectionError` or
`RuntimeError`; any other exception leaves the handler with the row as inserted.

* `create_settled_iff`: the row is settled exactly when the submission returned or
  raised one of these;
* `uncaught_orphan`: otherwise it stays `queued` without a job.
-/
import KubeRayBatch.Api.Working

namespace KubeRayBatch.Api

open Theory Cluster

set_option autoImplicit false

/-! ## The outside of one request -/

/-- What Ray makes of a submission. -/
inductive Reply where
  | accepted (submission_id : String)
  | refused (e : PyException)
  /-- The job was accepted, but its id never came back. -/
  | lost (submission_id : String) (e : PyException)

def Reply.event : Reply → Event
  | .accepted submission_id => ⟨.done, .submission submission_id⟩
  | .refused e => ⟨.refused e, .go⟩
  | .lost submission_id e => ⟨.lost e, .submission submission_id⟩

/-- What a handler meets: the ULID it draws, the shared disk, and the Ray client, if
it was bound.  The database works. -/
structure Outside where
  ulid : Ulid
  disk : DirOp → World → Event
  client : Option Reply

namespace Outside

def policy (o : Outside) : (op : Op) → World → Event
  | .ulid, _ => ⟨.done, .ulid o.ulid⟩
  | .dir _ op, w => o.disk op w
  | .client_ready, _ => ⟨.done, .flag o.client.isSome⟩
  | .submit_job _ _, _ =>
      match o.client with
      | none => ⟨.done, .go⟩
      | some reply => reply.event
  | _, _ => ⟨.done, .go⟩

/-- How `ray_client.submit_batch` ends. -/
def outcome (o : Outside) : Except PyException String :=
  match o.client with
  | none => .error (.runtimeError "ray_client not initialized")
  | some (.accepted submission_id) => .ok submission_id
  | some (.refused e) => .error e
  | some (.lost _ e) => .error e

theorem works (o : Outside) : Works o.policy := by
  intro op w database
  cases op <;> first | rfl | cases database

end Outside

/-- The `except` clause of `create_batch` catches it. -/
def caught (e : PyException) : Bool := e.isinstance .connectionError || e.isinstance .runtimeError

/-- The submission returned a job id, or failed in a way that is caught. -/
def Handled : Except PyException String → Prop
  | .ok _ => True
  | .error e => caught e = true

/-- The row of a finished request is settled: it runs as the job that was returned, or
it is marked as failed, and the client knows. -/
inductive Settled (outcome : Except PyException String) (result : Except PyException BatchObject)
    (row : Batch) : Prop where
  | attached (ray_job_id : String) (object : BatchObject) (returned : outcome = .ok ray_job_id)
      (active : isActive row.status = true) (job : row.ray_job_id = some ray_job_id)
      (answered : result = .ok object) (id : object.id = row.id)
  | failed (exc : PyException) (status : row.status = "failed") (error : row.error ≠ none)
      (completed : row.completed_at ≠ none) (answered : result = .error exc)

section Handler

variable {rd : RayData} {pid : Nat} {o : Outside} {settings : Settings}
variable {request : CreateBatchRequest}

/-- A row as it was inserted. -/
structure Inserted (b : String) (row : Batch) : Prop where
  id : row.id = b
  status : row.status = "queued"
  job : row.ray_job_id = none
  completed : row.completed_count = 0
  failed : row.failed_count = 0

/-! ## Up to the insert -/

/-- The program commits nothing. -/
abbrev CommitsNothing {α : Type} (p : Proc α) : Prop :=
  p.Uses fun op => ∀ pending, op ≠ .commit pending

theorem perform_table {α : Type} {p : Proc α} (nothing : CommitsNothing p) {w t : World}
    {result : Except PyException α}
    (performed : Program.perform (machine rd pid) o.policy p w = some (result, t)) :
    t.table = w.table :=
  Program.perform_keeps (K := fun t => t.table = w.table) (machine rd pid) o.policy
    (fun _ _ _ _ _ notCommit executed same => (exec_table rd pid notCommit executed).trans same)
    nothing performed rfl

theorem write_inputs_commits_nothing {root b : String} {items : List Json.Record} :
    CommitsNothing (write_inputs_jsonl root b items) := by
  have dirOnly : ∀ d : DirOp, CommitsNothing (ask (.dir b d)) :=
    fun d => Program.Uses.ask (by simp)
  unfold write_inputs_jsonl
  split
  · trivial
  · refine Program.Uses.bind (dirOnly .mkdir) fun _ => ?_
    refine Program.Uses.bind (dirOnly (.create .input)) fun _ => ?_
    refine Program.Uses.bind (Program.Uses.forEach (fun _ => ?_) _) fun _ => trivial
    exact Program.Uses.forEach (fun c => dirOnly (.append .input [c])) _

/-! ## The submission -/

theorem submit_ends {entrypoint : String} {env : Option RuntimeEnv} {t t' : World}
    {result : Except PyException String}
    (performed : Program.perform (machine rd pid) o.policy (submit_batch entrypoint env) t =
      some (result, t')) : result = o.outcome ∧ t'.table = t.table ∧ t'.clock = t.clock := by
  obtain ⟨ulid, disk, client⟩ := o
  cases client with
  | none => cases performed; exact ⟨rfl, rfl, rfl⟩
  | some reply =>
      cases reply with
      | refused e => cases performed; exact ⟨rfl, rfl, rfl⟩
      | accepted submission_id =>
          have computed := (Program.perform_done (machine rd pid) _
            (o := .submit_job entrypoint (env.getD [])) rfl _).symm.trans performed
          obtain ⟨⟨id, t₁⟩, executed, rest⟩ := Option.bind_eq_some_iff.1 computed
          have executed : exec rd pid (.submit_job entrypoint (env.getD []))
            (.submission submission_id) t = some (id, t₁) := executed
          obtain ⟨-, same, rfl⟩ := submit_exec rd pid entrypoint (env.getD []) executed
          cases same
          cases rest
          exact ⟨rfl, rfl, rfl⟩
      | lost submission_id e =>
          have computed := (Program.perform_lost (machine rd pid) _
            (o := .submit_job entrypoint (env.getD [])) rfl rfl _).symm.trans performed
          obtain ⟨⟨id, t₁⟩, executed, rest⟩ := Option.map_eq_some_iff.1 computed
          have executed : exec rd pid (.submit_job entrypoint (env.getD []))
            (.submission submission_id) t = some (id, t₁) := executed
          obtain ⟨-, -, rfl⟩ := submit_exec rd pid entrypoint (env.getD []) executed
          cases rest
          exact ⟨rfl, rfl, rfl⟩

/-- Reading the row back after a session. -/
theorem perform_read_back (b : String) (t : World) :
    Program.perform (machine rd pid) o.policy
        (session_scope ((ask (.get_batch b)).bind fun (row : Option Batch) => .ret (.clean, row))) t =
      some (.ok (t.table.get b), t) := by
  rw [perform_session o.works]
  · rw [perform_get_batch o.works]
    rfl
  · intro said t' performed
    rw [perform_get_batch o.works] at performed
    cases performed
    rfl

/-- The row of a request whose job id was returned. -/
theorem attachSubmitted_ends (rd : RayData) (pid : Nat) (o : Outside) (request : CreateBatchRequest)
    {b : String} (ray_job_id : String) {row : Batch} {t : World}
    (found : t.table.get b = some row) (inserted : Inserted b row) :
    ∃ t' row' object, Program.perform (machine rd pid) o.policy
        (attachSubmitted request b ray_job_id) t = some (.ok object, t') ∧
      Updated b row' t t' ∧ isActive row'.status = true ∧ row'.ray_job_id = some ray_job_id ∧
      object.id = row'.id := by
  obtain ⟨t₁, attached, updated⟩ :=
    perform_attach_ray_job_id o.works rd pid ray_job_id found
  have queued : (row.assigned { row with ray_job_id := some ray_job_id } t.clock).status =
      BatchStatus.queued.literal := (assigned_status _ _ _).trans inserted.status
  obtain ⟨object, shown, id, -⟩ := row_to_object_ok queued (by simp [inserted.completed])
    (by simp [inserted.failed])
  let t₂ : World := { t₁ with increments := t₁.increments ++ [.batch_submitted_total request.model] }
  refine ⟨t₂, _, object, ?_,
    ⟨updated.row, updated.others, updated.dirs, updated.jobs, updated.clock⟩, ?_, ?_, id⟩
  · refine (Program.perform_bind_ok attached _).trans ?_
    refine (perform_inc o.works _ _ _).trans ?_
    refine (Program.perform_bind_ok (perform_read_back b t₂) _).trans ?_
    rw [show t₂.table.get b = _ from updated.row]
    simp only [shown, lift, Program.perform_ret]
  · simp [inserted.status, isActive]
  · simp

/-- The row of a request whose submission failed in a way that is caught. -/
theorem submitFailed_ends (rd : RayData) (pid : Nat) (o : Outside) {b : String} (exc : PyException)
    {row : Batch} {t : World}
    (found : t.table.get b = some row) :
    ∃ t' row' answer, Program.perform (machine rd pid) o.policy (submitFailed b exc) t =
        some (.error answer, t') ∧
      Updated b row' t t' ∧ row'.status = "failed" ∧ row'.error ≠ none ∧
      row'.completed_at ≠ none := by
  let t₁ : World :=
    { t with
      logs := t.logs ++
        [(.warning, "create_batch: ray submit failed for " ++ b ++ ": " ++ exc.shown)]
      increments := t.increments ++ [.rayjob_submit_failures_total exc.typeName] }
  obtain ⟨t₂, marked, updated⟩ := perform_mark_failed (w := t₁) o.works rd pid
    ("Ray submission failed: " ++ exc.typeName) found
  refine ⟨t₂, _, .httpException 503 "Ray cluster unavailable", ?_,
    ⟨updated.row, updated.others, updated.dirs, updated.jobs, updated.clock⟩, ?_, ?_, ?_⟩
  · refine (perform_log o.works _ _ _ t).trans ?_
    refine (perform_inc o.works _ _ _).trans ?_
    exact Program.perform_bind_ok marked _
  · simp
  · simp
  · simp

/-- The handler from the committed row on. -/
theorem submitInserted_ends {b : String} {row : Batch} {t t' : World}
    {result : Except PyException BatchObject} (found : t.table.get b = some row)
    (inserted : Inserted b row)
    (performed : Program.perform (machine rd pid) o.policy (submitInserted settings request b) t =
      some (result, t')) :
    (∃ row', t'.table.get b = some row' ∧ (Handled o.outcome → Settled o.outcome result row') ∧
      (¬ Handled o.outcome → row' = row)) ∧ ∀ id ≠ b, t'.table.get id = t.table.get id := by
  let handler : PyException → Option (Proc String) := fun exc =>
    if caught exc then some (submitFailed b exc) else none
  have program : submitInserted settings request b =
      ((submit_batch (entrypointOf b request.model request.max_tokens)
        (some [("env_vars", [("RESULTS_DIR", settings.RESULTS_DIR)])])).catching handler).bind
        fun ray_job_id => attachSubmitted request b ray_job_id := rfl
  rw [program] at performed
  cases submitted : Program.perform (machine rd pid) o.policy
      (submit_batch (entrypointOf b request.model request.max_tokens)
        (some [("env_vars", [("RESULTS_DIR", settings.RESULTS_DIR)])])) t with
  | none =>
      rw [Program.perform_bind, Program.perform_catching, submitted] at performed
      cases performed
  | some pair =>
      obtain ⟨answer, t₁⟩ := pair
      obtain ⟨isOutcome, table, -⟩ := submit_ends submitted
      have found₁ : t₁.table.get b = some row := table ▸ found
      rw [← isOutcome]
      cases answer with
      | ok ray_job_id =>
          obtain ⟨t₂, row', object, ended, updated, active, job, id⟩ :=
            attachSubmitted_ends rd pid o request ray_job_id found₁ inserted
          rw [Program.perform_bind_ok (Program.perform_catching_ok submitted _), ended] at performed
          cases performed
          refine ⟨⟨row', updated.row, fun _ => ?_, fun unhandled => absurd trivial unhandled⟩, ?_⟩
          · exact .attached ray_job_id object rfl active job rfl id
          · exact fun id other => table ▸ updated.others id other
      | error e =>
          by_cases isCaught : caught e = true
          · obtain ⟨t₂, row', exc, ended, updated, status, error, completed⟩ :=
              submitFailed_ends rd pid o e found₁
            have raised := Program.perform_catching_error submitted handler
            rw [show handler e = some (submitFailed b e) from if_pos isCaught, Option.getD_some,
              ended] at raised
            rw [Program.perform_bind_error raised] at performed
            cases performed
            refine ⟨⟨row', updated.row, fun _ => ?_, fun unhandled => absurd isCaught unhandled⟩, ?_⟩
            · exact .failed exc status error completed rfl
            · exact fun id other => table ▸ updated.others id other
          · have raised := Program.perform_catching_error submitted handler
            rw [show handler e = none from if_neg isCaught, Option.getD_none,
              Program.perform_raise] at raised
            rw [Program.perform_bind_error raised] at performed
            cases performed
            exact ⟨⟨row, found₁, fun handled => absurd handled isCaught, fun _ => rfl⟩,
              fun id _ => by rw [table]⟩

/-- The row that a finished request has committed, and what became of it. -/
theorem create_batch_ends {w w' : World} {result : Except PyException BatchObject} {id : String}
    {row : Batch} (absent : w.table.get id = none)
    (performed : Program.perform (machine rd pid) o.policy (create_batch settings request) w =
      some (result, w')) (committed : w'.table.get id = some row) :
    (Handled o.outcome → Settled o.outcome result row) ∧
      (¬ Handled o.outcome → row.status = "queued" ∧ row.ray_job_id = none) := by
  have program : create_batch settings request = _new_batch_id.bind fun b =>
      (ask (.log .info ("create_batch: id=" ++ b ++ " prompts=" ++
        toString request.input.length))).bind fun _ =>
      (write_inputs_jsonl settings.RESULTS_DIR b (request.input.map (·.model_dump))).bind
        fun input_path =>
      (session_scope (.ret (.insert (newRow settings request b input_path), ()))).bind fun _ =>
      submitInserted settings request b := rfl
  rw [program] at performed
  -- before the insert is committed the table has no new key
  have nothingYet : w'.table ≠ w.table := by
    intro same
    rw [same, absent] at committed
    cases committed
  have draws : CommitsNothing _new_batch_id :=
    Program.Uses.bind (Program.Uses.ask (by simp)) fun _ => trivial
  rcases Program.perform_bind_cases performed with ⟨b, w₁, drawn, performed⟩ | ⟨e, drawn, -⟩
  swap
  · exact absurd (perform_table draws drawn) nothingYet
  have start : w₁.table = w.table := perform_table draws drawn
  have performed := (perform_log o.works _ _ _ w₁).symm.trans performed
  rcases Program.perform_bind_cases performed with ⟨path, w₂, written, performed⟩ | ⟨e, written, -⟩
  swap
  · exact absurd ((perform_table write_inputs_commits_nothing written).trans start) nothingYet
  have before : w₂.table = w.table :=
    (perform_table write_inputs_commits_nothing written).trans start
  let body : Proc (Pending × Unit) := .ret (.insert (newRow settings request b path), ())
  have stored : ∀ said t, Program.perform (machine rd pid) o.policy body w₂ = some (.ok said, t) →
      said.1.storable = true := by
    intro said t performed
    cases performed
    rfl
  have insertion := perform_session o.works body w₂ stored
  rcases Program.perform_bind_cases performed with ⟨_, w₃, inserted, performed⟩ | ⟨e, inserted, -⟩
  swap
  · obtain ⟨table, -, same⟩ := Option.map_eq_some_iff.1 (insertion.symm.trans inserted)
    cases same
  obtain ⟨table, added, same⟩ := Option.map_eq_some_iff.1 (insertion.symm.trans inserted)
  cases same
  have rows := Table.get_commit added
  have found : table.get b = some ((newRow settings request b path).row w₂.clock) := by
    rw [rows b]
    exact if_pos rfl
  have fresh : Inserted b ((newRow settings request b path).row w₂.clock) :=
    ⟨rfl, rfl, rfl, rfl, rfl⟩
  obtain ⟨⟨row', foundNow, settled, orphan⟩, others⟩ := submitInserted_ends found fresh performed
  have key : id = b := by
    by_contra other
    have elsewhere : w'.table.get id = w₂.table.get id :=
      (others id other).trans ((rows id).trans (if_neg other))
    rw [before, absent, committed] at elsewhere
    cases elsewhere
  subst key
  have same : row' = row := Option.some.inj (foundNow.symm.trans committed)
  subst same
  refine ⟨settled, fun unhandled => ?_⟩
  rw [orphan unhandled]
  exact ⟨rfl, rfl⟩

/-- **key theorem.** A finished request has settled its row exactly when the
submission returned, or raised what the handler catches. -/
theorem create_settled_iff {w w' : World} {result : Except PyException BatchObject} {id : String}
    {row : Batch} (absent : w.table.get id = none)
    (performed : Program.perform (machine rd pid) o.policy (create_batch settings request) w =
      some (result, w')) (committed : w'.table.get id = some row) :
    Settled o.outcome result row ↔ Handled o.outcome := by
  obtain ⟨handled, unhandled⟩ := create_batch_ends absent performed committed
  refine ⟨fun settled => ?_, handled⟩
  by_contra escaped
  obtain ⟨queued, noJob⟩ := unhandled escaped
  cases settled with
  | attached ray_job_id object returned active job => rw [noJob] at job; cases job
  | failed exc status =>
      rw [queued] at status
      exact absurd status (by decide)

/-- **A row that no sweep picks up**: any other exception leaves it `queued` without a
job. -/
theorem uncaught_orphan {w w' : World} {result : Except PyException BatchObject} {id : String}
    {row : Batch} {e : PyException} (raised : o.outcome = .error e) (escapes : caught e = false)
    (absent : w.table.get id = none)
    (performed : Program.perform (machine rd pid) o.policy (create_batch settings request) w =
      some (result, w')) (committed : w'.table.get id = some row) :
    row.status = "queued" ∧ row.ray_job_id = none := by
  refine (create_batch_ends absent performed committed).2 ?_
  rw [raised, Handled, escapes]
  exact Bool.false_ne_true

end Handler

/-! ## Concrete submissions -/

/-- A working disk, and the given Ray client. -/
def sampleOutside (reply : Reply) : Outside := ⟨sampleUlid, fun _ _ => ⟨.done, .go⟩, some reply⟩

def sampleSettings : Settings := ⟨"/data/batches"⟩

/-- The first request of an empty cluster, up to the row it commits. -/
def sampleSubmission (reply : Reply) : Option (Except PyException BatchObject × World) :=
  Program.perform (machine ⟨fun _ => none, fun _ _ _ => false⟩ 0) (sampleOutside reply).policy
    (create_batch sampleSettings hiRequest) World.init

theorem sample_committed (reply : Reply)
    (commits : ((sampleSubmission reply).bind fun pair =>
      pair.2.table.get (newBatchId sampleUlid)).isSome = true) :
    ∃ result w' row, sampleSubmission reply = some (result, w') ∧
      w'.table.get (newBatchId sampleUlid) = some row := by
  obtain ⟨row, found⟩ := Option.isSome_iff_exists.1 commits
  obtain ⟨⟨result, w'⟩, performed, row'⟩ := Option.bind_eq_some_iff.1 found
  exact ⟨result, w', row, performed, row'⟩

/-- A request whose job id was returned. -/
theorem create_settled_accepted : ∃ (result : Except PyException BatchObject) (w' : World) (row : Batch),
    w'.table.get (newBatchId sampleUlid) = some row ∧
      (Settled (sampleOutside (.accepted "raysubmit_1")).outcome result row ↔
        Handled (sampleOutside (.accepted "raysubmit_1")).outcome) := by
  obtain ⟨result, w', row, performed, committed⟩ :=
    sample_committed (.accepted "raysubmit_1") (by decide +kernel)
  exact ⟨result, w', row, committed, create_settled_iff rfl performed committed⟩

/-- What the HTTP library raises when Ray's dashboard does not answer: its own class
`ConnectionError`, which is an `OSError` and not the built-in `ConnectionError`. -/
def requestsConnectionError : PyException :=
  ⟨⟨"requests.exceptions", "ConnectionError"⟩,
    [⟨"requests.exceptions", "RequestException"⟩, .osError, .exception, .baseException],
    .ofText "Max retries exceeded".toList, none⟩

/-- The row of a request whose submission raised another class. -/
theorem submission_orphaned :
    ¬ ∀ (rd : RayData) (pid : Nat) (o : Outside) (settings : Settings) (request : CreateBatchRequest)
      (w w' : World) (result : Except PyException BatchObject) (id : String) (row : Batch),
      w.table.get id = none →
      Program.perform (machine rd pid) o.policy (create_batch settings request) w =
        some (result, w') →
      w'.table.get id = some row → Settled o.outcome result row := by
  intro settled
  obtain ⟨result, w', row, performed, committed⟩ :=
    sample_committed (.refused requestsConnectionError) (by decide +kernel)
  have outcome := settled _ _ _ _ _ _ _ _ _ _ rfl performed committed
  obtain ⟨queued, noJob⟩ := uncaught_orphan rfl (by decide) rfl performed committed
  cases outcome with
  | attached ray_job_id object returned active job => rw [noJob] at job; cases job
  | failed exc status =>
      rw [queued] at status
      exact absurd status (by decide)

end KubeRayBatch.Api
