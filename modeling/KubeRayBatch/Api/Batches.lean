/-
# Api.Batches -- the batch routes and the status poller

The handlers and the poller, statement by statement.  Every database access is
inside `session_scope`: the body reads rows and says what the session holds when
it ends, and the commit writes that.  A poller sweep catches whatever
`Exception` the update of one row raises and goes on with the next row; a
cancellation is not an `Exception` and ends the sweep.
-/
import KubeRayBatch.Api.Storage

namespace KubeRayBatch.Api

open Theory Cluster

set_option autoImplicit false

structure Settings where
  /-- `str(Path(RESULTS_DIR))` -/
  RESULTS_DIR : String

/-- `db.session_scope`: commit on a clean exit, roll back on an exception. -/
def session_scope {α : Type} (body : Proc (Pending × α)) : Proc α := do
  ask .open_session
  Program.catching
    (do
      let (pending, result) ← body
      ask (.commit pending)
      pure result)
    fun exc =>
      if exc.isinstance .exception then
        some do
          ask .rollback
          .raise exc
      else none

/-- The value of a computation that may raise. -/
def lift {α : Type} : Except PyException α → Proc α
  | .ok a => .ret a
  | .error e => .raise e

def newBatchId (u : Ulid) : String := "batch_" ++ u.text

def sampleUlid : Ulid := ⟨"01ARZ3NDEKTSV4RRFFQ69G5FAV", by decide,
  fun c mem => List.contains_iff_mem.1 (List.all_eq_true.1 (by decide) c mem)⟩

def _new_batch_id : Proc String := do
  let u : Ulid ← ask .ulid
  pure (newBatchId u)

/-- `a / b`, to the nearest integer, a half to the even one. -/
def divNearestEven (a b : Nat) : Nat :=
  if 2 * (a % b) < b ∨ (2 * (a % b) = b ∧ a / b % 2 = 0) then a / b else a / b + 1

/-- `int(dt.timestamp())`, of microseconds: they are divided to the nearest float, of 53 bits,
and cut to the second. -/
def _to_unix (dt : Nat) : Nat :=
  let bits := 52 - Nat.log2 (dt / 1000000)
  divNearestEven (dt * 2 ^ bits) 1000000 / 2 ^ bits

def _batch_row_to_object (row : Batch) : Except PyException BatchObject :=
  match BatchStatus.ofLiteral row.status with
  | none => .error (validationError "status")
  | some status =>
      if row.completed_count < 0 then .error (validationError "request_counts.completed")
      else if row.failed_count < 0 then .error (validationError "request_counts.failed")
      else
        .ok {
          id := row.id
          model := row.model
          status := status
          created_at := _to_unix row.created_at
          completed_at := row.completed_at.map _to_unix
          request_counts :=
            { total := row.input_count
              completed := row.completed_count.toNat
              failed := row.failed_count.toNat }
          error := row.error }

/-- A row with one of the five statuses and no negative count is shown as it is. -/
theorem row_to_object_ok {row : Batch} {status : BatchStatus} (literal : row.status = status.literal)
    (completed : 0 ≤ row.completed_count) (failed : 0 ≤ row.failed_count) :
    ∃ object, _batch_row_to_object row = .ok object ∧ object.id = row.id ∧ object.status = status := by
  have valid : BatchStatus.ofLiteral row.status = some status := by
    rw [literal, BatchStatus.ofLiteral_literal]
  simp only [_batch_row_to_object, valid, Int.not_lt.2 completed, Int.not_lt.2 failed, if_false]
  exact ⟨_, rfl, rfl, rfl⟩

/-! ## Writers of a row after its insert -/

def _mark_failed (batch_id error : String) : Proc Unit :=
  session_scope do
    let row : Option Batch ← ask (.get_batch batch_id)
    match row with
    | none =>
        ask (.log .error ("_mark_failed: row not found: " ++ batch_id))
        pure (.clean, ())
    | some row =>
        let now : Nat ← ask .utcnow
        pure (.update batch_id (row.changes
          { row with status := "failed", error := some error, completed_at := some now }), ())

def _attach_ray_job_id (batch_id ray_job_id : String) : Proc Unit :=
  session_scope do
    let row : Option Batch ← ask (.get_batch batch_id)
    match row with
    | none =>
        ask (.log .error ("_attach_ray_job_id: row not found: " ++ batch_id))
        pure (.clean, ())
    | some row =>
        pure (.update batch_id (row.changes { row with ray_job_id := some ray_job_id }), ())

def _update_status_only (batch_id new_status : String) : Proc Unit :=
  session_scope do
    let row : Option Batch ← ask (.get_batch batch_id)
    match row with
    | none => pure (.clean, ())
    | some row =>
        if row.status = new_status then
          pure (.clean, ())
        else
          pure (.update batch_id (row.changes { row with status := new_status }), ())

def _apply_success (rt : Runtime) (batch_id : String) (marker : Json.Value) (completed_at : Nat) :
    Proc Unit :=
  session_scope do
    let row : Option Batch ← ask (.get_batch batch_id)
    match row with
    | none => pure (.clean, ())
    | some row =>
        let completed_count ← lift ((dictGet marker "completed" (.int 0)).bind (pyInt rt))
        let failed_count ← lift ((dictGet marker "failed" (.int 0)).bind (pyInt rt))
        ask (.inc (.batch_terminal_total row.model "completed"))
        pure (.update batch_id (row.changes
          { row with
            status := "completed"
            completed_count := completed_count
            failed_count := failed_count
            completed_at := some completed_at }), ())

/-- The `error` column takes NULL or a text of PostgreSQL, without half of a surrogate pair and
without `U+0000`; a marker may hold anything. -/
def errorColumn : Json.Value → Except PyException (Option String)
  | .null => .ok none
  | .str s =>
      match s.text? with
      | none => .error .unicodeEncodeError
      | some text =>
          if '\x00' ∈ text then .error (.valueError "invalid byte sequence for encoding")
          else .ok (some (String.ofList text))
  | _ => .error (.typeError "expected str")

/-- The column refuses with an `Exception`. -/
theorem errorColumn_refused {error : Json.Value} {exc : PyException}
    (refused : errorColumn error = .error exc) : exc.isinstance .exception = true := by
  cases error with
  | null => cases refused
  | bool | int | float | arr | obj =>
      cases refused
      rfl
  | str s =>
      simp only [errorColumn] at refused
      split at refused
      · cases refused
        rfl
      · split_ifs at refused
        cases refused
        rfl

/-- A string that the column stores is a text without `U+0000`. -/
theorem errorColumn_str {s : Str} {column : Option String} :
    errorColumn (.str s) = .ok column ↔
      ∃ text, s = .ofText text ∧ '\x00' ∉ text ∧ column = some (String.ofList text) := by
  cases isText : s.text? with
  | none =>
      simp only [errorColumn, isText, reduceCtorEq, false_iff]
      rintro ⟨text, rfl, -⟩
      cases (Str.text?_ofText text).symm.trans isText
  | some text =>
      obtain rfl := Str.text?_iff.1 isText
      by_cases nul : '\x00' ∈ text <;> simp [errorColumn, nul, eq_comm]

def _apply_terminal (batch_id new_status : String) (error : Json.Value) (completed_at : Nat) :
    Proc Unit :=
  session_scope do
    let row : Option Batch ← ask (.get_batch batch_id)
    match row with
    | none => pure (.clean, ())
    | some row =>
        ask (.inc (.batch_terminal_total row.model new_status))
        -- the driver refuses another value when the session is flushed
        let error ← lift (errorColumn error)
        pure (.update batch_id (row.changes
          { row with status := new_status, error := error, completed_at := some completed_at }), ())

/-! ## POST /v1/batches -/

def entrypointOf (batch_id model : String) (max_tokens : Nat) : String :=
  "python /app/jobs/batch_infer.py " ++
    "--batch-id " ++ batch_id ++ " " ++
    "--model " ++ model ++ " " ++
    "--max-tokens " ++ toString max_tokens

/-- The row that a request inserts. -/
def newRow (settings : Settings) (request : CreateBatchRequest) (batch_id input_path : String) :
    NewBatch where
  id := batch_id
  status := "queued"
  model := request.model
  input_count := request.input.length
  max_tokens := request.max_tokens
  input_path := some input_path
  results_path := some (filePath settings.RESULTS_DIR batch_id .results)

/-- The `except` clause around the submission. -/
def submitFailed (batch_id : String) (exc : PyException) : Proc String := do
  ask (.log .warning ("create_batch: ray submit failed for " ++ batch_id ++ ": " ++ exc.shown))
  ask (.inc (.rayjob_submit_failures_total exc.typeName))
  _mark_failed batch_id ("Ray submission failed: " ++ exc.typeName)
  .raise (.httpException 503 "Ray cluster unavailable")

/-- `create_batch` from the returned job id on: attach it and answer with the row. -/
def attachSubmitted (request : CreateBatchRequest) (batch_id ray_job_id : String) :
    Proc BatchObject := do
  _attach_ray_job_id batch_id ray_job_id
  ask (.inc (.batch_submitted_total request.model))
  let refreshed ← session_scope do
    let row : Option Batch ← ask (.get_batch batch_id)
    pure (.clean, row)
  match refreshed with
  | none =>
      ask (.log .error ("create_batch: row vanished after insert: " ++ batch_id))
      .raise (.httpException 500 "Internal error")
  | some row => lift (_batch_row_to_object row)

/-- `create_batch` from the committed row on: submit the job. -/
def submitInserted (settings : Settings) (request : CreateBatchRequest) (batch_id : String) :
    Proc BatchObject := do
  let ray_job_id ← (submit_batch (entrypointOf batch_id request.model request.max_tokens)
      (some [("env_vars", [("RESULTS_DIR", settings.RESULTS_DIR)])])).catching fun exc =>
    if exc.isinstance .connectionError || exc.isinstance .runtimeError then
      some (submitFailed batch_id exc)
    else none
  attachSubmitted request batch_id ray_job_id

def create_batch (settings : Settings) (request : CreateBatchRequest) : Proc BatchObject := do
  let batch_id ← _new_batch_id
  ask (.log .info
    ("create_batch: id=" ++ batch_id ++ " prompts=" ++ toString request.input.length))
  let input_items := request.input.map (·.model_dump)
  let input_path ← write_inputs_jsonl settings.RESULTS_DIR batch_id input_items
  session_scope (pure (.insert (newRow settings request batch_id input_path), ()))
  submitInserted settings request batch_id

/-! ## GET /v1/batches/{batch_id} and its results -/

def get_batch_status (batch_id : String) : Proc BatchObject := do
  let row ← session_scope do
    let row : Option Batch ← ask (.get_batch batch_id)
    pure (.clean, row)
  match row with
  | none => .raise (.httpException 404 ("Batch not found: " ++ batch_id))
  | some row => lift (_batch_row_to_object row)

/-- A response whose body is an iterator over `results.jsonl`. -/
structure StreamingResponse where
  root : String
  batch_id : String
  media_type : String
  deriving DecidableEq, Repr

def get_batch_results (settings : Settings) (batch_id : String) : Proc StreamingResponse := do
  let row ← session_scope do
    let row : Option Batch ← ask (.get_batch batch_id)
    pure (.clean, row)
  match row with
  | none => .raise (.httpException 404 ("Batch not found: " ++ batch_id))
  | some row =>
      if row.status ≠ "completed" then
        .raise (.httpException 409 ("Batch not complete (status=" ++ row.status ++ ")"))
      else
        let present : Bool ← ask (.dir batch_id (.exists .results))
        if !present then
          ask (.log .error
            ("get_batch_results: status=completed but results file missing for " ++ batch_id))
          .raise (.httpException 500 "Results file missing")
        else
          pure ⟨settings.RESULTS_DIR, batch_id, "application/x-ndjson"⟩

/-- The whole exchange: the handler, then its body as it is consumed. -/
def streamed_results (settings : Settings) (batch_id : String) : Proc (List Text) := do
  let response ← get_batch_results settings batch_id
  iter_results_ndjson response.root response.batch_id

/-! ## The status poller -/

/-- What a poller sweep does with a terminal answer. -/
def _poll_terminal (rt : Runtime) (batch_id new_status : String) (input_count now_utc : Nat) :
    Proc Unit := do
  if new_status = "completed" then
    let marker ← read_success_marker batch_id
    match marker with
    | .null =>
        _apply_success rt batch_id
          (.obj [(.ofText "completed".toList, .int input_count), (.ofText "failed".toList, .int 0)]) now_utc
    | marker => _apply_success rt batch_id marker now_utc
  else if new_status = "failed" then
    let marker ← read_failure_marker batch_id
    let error_message ←
      if truthy rt marker then lift (dictGet marker "error" .null)
      else pure (.str (.ofText "Ray job failed (no marker)".toList))
    _apply_terminal batch_id "failed" error_message now_utc
  else
    _apply_terminal batch_id "cancelled" .null now_utc

def _poll_one (rt : Runtime) (batch_id ray_job_id : String) (input_count : Nat) : Proc Unit := do
  let new_status ← get_status rt ray_job_id
  if new_status ∉ TERMINAL_STATUSES then
    _update_status_only batch_id new_status
  else
    let now_utc : Nat ← ask .utcnow
    _poll_terminal rt batch_id new_status input_count now_utc

/-- The body of the sweep's loop. -/
def pollRow (rt : Runtime) (row : Batch) : Proc Unit :=
  match row.ray_job_id with
  | none => pure ()
  | some ray_job_id =>
      (_poll_one rt row.id ray_job_id row.input_count).catching fun exc =>
        if exc.isinstance .exception then
          some (ask (.log .warning ("poller: failed to update " ++ row.id ++ ": " ++ exc.shown)))
        else none

def poll_active_batches (rt : Runtime) : Proc Unit := do
  let active ← session_scope do
    let rows : List Batch ← ask .list_active_batches
    pure (.clean, rows)
  if active.isEmpty then
    pure ()
  else
    ask (.log .info ("poller: sweeping " ++ toString active.length ++ " active batches"))
    Program.forEach active (pollRow rt)

/-- One round of `_poller_loop`; only a cancellation ends the loop. -/
def pollerRound (rt : Runtime) : Proc Unit :=
  (poll_active_batches rt).catching fun exc =>
    if exc.isinstance .cancelledError then none
    else if exc.isinstance .exception then
      some (ask (.log .error ("poller: sweep raised: " ++ exc.shown)))
    else none

end KubeRayBatch.Api
