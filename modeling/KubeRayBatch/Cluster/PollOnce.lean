/-
# Cluster.PollOnce -- one terminal answer of Ray, recorded or not

When Ray's answer is terminal, `_poll_one` reads the marker that the worker may have
left and writes the final row.  The worker writes a marker piece by piece, so a worker
that was killed can leave any prefix of it; a proper prefix does not parse.  A whole
marker may still hold what no column stores: an error with half of a surrogate pair or
with `U+0000`, a count beyond 32 bits.  Nothing is written in either case.

* `terminal_recorded_iff`: the answer is recorded exactly when the marker it asks for
  is absent, or whole with values that the columns store;
* `unrecordable_stuck`: otherwise the sweep leaves everything as it was, and so the
  next sweep meets the same marker.
-/
import KubeRayBatch.Api.Working
import KubeRayBatch.Worker.BatchInfer

namespace KubeRayBatch.Cluster

open Theory Api Worker

set_option autoImplicit false

/-- A policy of a poller whose database, disk and Ray client work.  What the columns do not
store, the database refuses. -/
structure Answers (policy : (op : Op) → World → Event) : Prop where
  database : Works policy
  refuses : ∀ b changes w, changes.storable = false →
    ∃ exc, (policy (.commit (.update b changes)) w).fate = .refused exc ∧
      exc.isinstance .exception = true
  disk : ∀ b op w, (policy (.dir b op) w).fate = .done
  ready : ∀ w, policy .client_ready w = ⟨.done, .flag true⟩
  ray : ∀ id w, (policy (.get_job_status id) w).fate = .done

/-! ## Markers -/

/-- A marker file holds a prefix of a record, if it is there. -/
def MarkerLeft (IsRecord : Json.Record → Prop) (file : Option Text) : Prop :=
  ∀ text, file = some text → ∃ record more, IsRecord record ∧ text ++ more = Json.dumps record

/-- The `_SUCCESS` file that jobs of a batch leave. -/
def SuccessLeft (b : String) : Option Text → Prop :=
  MarkerLeft fun record => ∃ model counts x, record = successRecord b model counts x

/-- The `_FAILED` file that jobs of a batch leave. -/
def FailureLeft (b : String) : Option Text → Prop :=
  MarkerLeft fun record => ∃ error traceback x, record = failureRecord b error traceback x

/-- What is left of a marker is a file that does not parse, or the whole record. -/
theorem MarkerLeft.cases {IsRecord : Json.Record → Prop} {file : Option Text} {text : Text}
    (left : MarkerLeft IsRecord file) (written : file = some text) :
    Json.loads text = none ∨ ∃ record, IsRecord record ∧ text = Json.dumps record := by
  obtain ⟨record, more, isRecord, prefixed⟩ := left text written
  cases more with
  | nil => exact .inr ⟨record, isRecord, (List.append_nil text).symm.trans prefixed⟩
  | cons c more => exact .inl (Json.loads_proper_prefix prefixed (by simp))

/-- What an answer needs of the directory: the marker it asks for is absent, or it is whole
and the columns store its values. -/
inductive Recordable (b : String) (d : Dir) : String → Prop where
  | trusted (absent : d.file .success = none) : Recordable b d "completed"
  | counted (model : String) (counts : Counts) (x : Json.Float)
      (written : d.file .success = some (Json.dumps (successRecord b model counts x)))
      (stored : int4 counts.completed = true ∧ int4 counts.failed = true) :
      Recordable b d "completed"
  | unmarked (absent : d.file .failed = none) : Recordable b d "failed"
  | told (error traceback : Str) (x : Json.Float) (text : Text)
      (written : d.file .failed = some (Json.dumps (failureRecord b error traceback x)))
      (isText : error.joined = .ofText text) (stored : '\x00' ∉ text) : Recordable b d "failed"
  | cancelled : Recordable b d "cancelled"

/-- The integers of a row fit their columns. -/
structure Fits (row : Batch) : Prop where
  input_count : int4 row.input_count = true
  completed_count : int4 row.completed_count = true
  failed_count : int4 row.failed_count = true

section Poll

variable {rt : Runtime} {rd : RayData} {pid : Nat} {policy : (op : Op) → World → Event}
variable (answers : Answers policy) {w : World} {b : String} {α : Type}

/-! ## What the poller reads -/

include answers in
theorem perform_exists (f : FileName) (next : Bool → Proc α) :
    Program.perform (machine rd pid) policy ((ask (.dir b (.exists f))).bind next) w =
      Program.perform (machine rd pid) policy (next ((w.dirs b).file f).isSome) w :=
  Program.perform_answer (machine rd pid) policy (o := .dir b (.exists f)) (answers.disk b _ w)
    (exists_exec rd pid b f (policy (.dir b (.exists f)) w).choice w) next

include answers in
theorem perform_read_text {f : FileName} {text : Text} (written : (w.dirs b).file f = some text)
    (next : Text → Proc α) :
    Program.perform (machine rd pid) policy ((ask (.dir b (.read_text f))).bind next) w =
      Program.perform (machine rd pid) policy (next text) w :=
  Program.perform_answer (machine rd pid) policy (o := .dir b (.read_text f)) (answers.disk b _ w)
    (read_text_exec rd pid written (policy (.dir b (.read_text f)) w).choice) next

include answers in
theorem perform_get_status {id : String} {job : Job} (known : w.job id = some job) :
    Program.perform (machine rd pid) policy (get_status rt id) w =
      some (.ok (map_status rt job.status), w) := by
  have ready : exec rd pid .client_ready (policy .client_ready w).choice w = some (true, w) := by
    rw [answers.ready]
    rfl
  refine (Program.perform_answer (machine rd pid) policy (o := .client_ready)
    (by rw [answers.ready]) ready _).trans ?_
  exact Program.perform_answer (machine rd pid) policy (o := .get_job_status id)
    (answers.ray id w) (job_status_exec rd pid known (policy (.get_job_status id) w).choice) _

include answers in
theorem perform_read_marker (f : FileName) :
    Program.perform (machine rd pid) policy (read_marker f b) w =
      match (w.dirs b).file f with
      | none => some (.ok .null, w)
      | some text =>
          match Json.loads text with
          | some data => some (.ok data, w)
          | none => some (.error .jsonDecodeError, w) := by
  refine (perform_exists answers f _).trans ?_
  cases written : (w.dirs b).file f with
  | none => rfl
  | some text =>
      refine (perform_read_text answers written _).trans ?_
      cases decoded : Json.loads text <;> simp [decoded]

/-! ## What it writes -/

section Writes

variable {row : Batch} (found : w.table.get b = some row)

include answers found in
theorem poll_completed {marker : Json.Value} {completed failed : Int}
    (read : Program.perform (machine rd pid) policy
      (_poll_terminal rt b "completed" row.input_count w.clock) w =
        Program.perform (machine rd pid) policy (_apply_success rt b marker w.clock) w)
    (completedIs : (dictGet marker "completed" (.int 0)).bind (pyInt rt) = .ok completed)
    (failedIs : (dictGet marker "failed" (.int 0)).bind (pyInt rt) = .ok failed)
    (stored : int4 completed = true ∧ int4 failed = true) :
    ∃ w' row', Program.perform (machine rd pid) policy
        (_poll_terminal rt b "completed" row.input_count w.clock) w = some (.ok (), w') ∧
      Updated b row' w w' ∧ row'.status = "completed" := by
  obtain ⟨w', applied, updated⟩ :=
    perform_apply_success answers.database w.clock found completedIs failedIs rd pid stored
  exact ⟨w', _, read.trans applied, updated, assigned_status _ _ _⟩

include answers found in
theorem poll_ended {answer : String} {error : Json.Value} {column : Option String}
    (read : Program.perform (machine rd pid) policy
      (_poll_terminal rt b answer row.input_count w.clock) w =
        Program.perform (machine rd pid) policy (_apply_terminal b answer error w.clock) w)
    (errorIs : errorColumn error = .ok column) :
    ∃ w' row', Program.perform (machine rd pid) policy
        (_poll_terminal rt b answer row.input_count w.clock) w = some (.ok (), w') ∧
      Updated b row' w w' ∧ row'.status = answer := by
  obtain ⟨w', applied, updated⟩ :=
    perform_apply_terminal answers.database w.clock found rd pid errorIs
  exact ⟨w', _, read.trans applied, updated, assigned_status _ _ _⟩

end Writes

section Reads

variable {input_count now_utc : Nat}

include answers in
/-- Without `_SUCCESS` the row's own count is trusted. -/
theorem poll_trusted (absent : (w.dirs b).file .success = none) :
    Program.perform (machine rd pid) policy
      (_poll_terminal rt b "completed" input_count now_utc) w =
        Program.perform (machine rd pid) policy (_apply_success rt b
          (.obj [(.ofText "completed".toList, .int input_count),
            (.ofText "failed".toList, .int 0)]) now_utc) w := by
  have read : Program.perform (machine rd pid) policy (read_marker .success b) w = _ :=
    perform_read_marker answers .success
  rw [absent] at read
  exact Program.perform_bind_ok read _

include answers in
theorem poll_counted {model : String} {counts : Counts} {x : Json.Float}
    (written : (w.dirs b).file .success =
      some (Json.dumps (successRecord b model counts x))) :
    Program.perform (machine rd pid) policy
      (_poll_terminal rt b "completed" input_count now_utc) w =
        Program.perform (machine rd pid) policy (_apply_success rt b
          (.obj (Json.decoded (successRecord b model counts x))) now_utc) w := by
  have read : Program.perform (machine rd pid) policy (read_marker .success b) w = _ :=
    perform_read_marker answers .success
  simp only [written, Json.loads_dumps] at read
  exact Program.perform_bind_ok read _

include answers in
theorem poll_unmarked (absent : (w.dirs b).file .failed = none) :
    Program.perform (machine rd pid) policy
      (_poll_terminal rt b "failed" input_count now_utc) w =
        Program.perform (machine rd pid) policy (_apply_terminal b "failed"
          (.str (.ofText "Ray job failed (no marker)".toList)) now_utc) w := by
  have read : Program.perform (machine rd pid) policy (read_marker .failed b) w = _ :=
    perform_read_marker answers .failed
  rw [absent] at read
  exact Program.perform_bind_ok read _

include answers in
theorem poll_told {error traceback : Str} {x : Json.Float}
    (written : (w.dirs b).file .failed =
      some (Json.dumps (failureRecord b error traceback x))) :
    Program.perform (machine rd pid) policy
      (_poll_terminal rt b "failed" input_count now_utc) w =
        Program.perform (machine rd pid) policy (_apply_terminal b "failed"
          (.str error.joined) now_utc) w := by
  have read : Program.perform (machine rd pid) policy (read_marker .failed b) w = _ :=
    perform_read_marker answers .failed
  simp only [written, Json.loads_dumps] at read
  exact Program.perform_bind_ok read _

include answers in
/-- A marker that does not parse makes the poller raise before it writes anything. -/
theorem read_marker_torn {f : FileName} {text : Text} (written : (w.dirs b).file f = some text)
    (unreadable : Json.loads text = none) :
    Program.perform (machine rd pid) policy (read_marker f b) w =
      some (.error .jsonDecodeError, w) := by
  rw [perform_read_marker answers f]
  simp only [written, unreadable]

end Reads

section Row

variable {row : Batch} (found : w.table.get b = some row) (fits : Fits row)

include answers found fits in
/-- **A recordable answer** is recorded. -/
theorem poll_terminal_recorded {answer : String} (recordable : Recordable b (w.dirs b) answer) :
    ∃ w' row', Program.perform (machine rd pid) policy
        (_poll_terminal rt b answer row.input_count w.clock) w = some (.ok (), w') ∧
      Updated b row' w w' ∧ row'.status = answer := by
  cases recordable with
  | trusted absent =>
      exact poll_completed answers found (poll_trusted answers absent) rfl rfl
        ⟨fits.input_count, rfl⟩
  | counted model counts x written stored =>
      exact poll_completed answers found (poll_counted answers written)
        (congrArg (·.bind (pyInt rt)) (successRecord_completed b model counts x (.int 0)))
        (congrArg (·.bind (pyInt rt)) (successRecord_failed b model counts x (.int 0))) stored
  | unmarked absent => exact poll_ended answers found (poll_unmarked answers absent) rfl
  | told error traceback x text written isText stored =>
      exact poll_ended answers found (poll_told answers written)
        (errorColumn_str.2 ⟨text, isText, stored, rfl⟩)
  | cancelled => exact poll_ended answers found rfl rfl

include answers found fits in
/-- **Any other answer** makes the poller raise, and the row stays. -/
theorem poll_terminal_raises {answer : String} (terminal : answer ∈ TERMINAL_STATUSES)
    (success : SuccessLeft b ((w.dirs b).file .success))
    (failure : FailureLeft b ((w.dirs b).file .failed))
    (unrecordable : ¬ Recordable b (w.dirs b) answer) :
    Raises rd pid policy (_poll_terminal rt b answer row.input_count w.clock) w := by
  have torn : Quiet w w ∧ PyException.jsonDecodeError.isinstance .exception = true :=
    ⟨quiet_refl w, rfl⟩
  simp only [TERMINAL_STATUSES, List.mem_cons, List.not_mem_nil, or_false] at terminal
  rcases terminal with rfl | rfl | rfl
  · cases written : (w.dirs b).file .success with
    | none => exact absurd (.trusted written) unrecordable
    | some text =>
        rcases success.cases written with unreadable | ⟨_, ⟨model, counts, x, rfl⟩, rfl⟩
        · exact ⟨_, w, Program.perform_bind_error (read_marker_torn answers written unreadable) _,
            torn.2, torn.1⟩
        · have raised := apply_success_raises answers.database w.clock found
            (congrArg (·.bind (pyInt rt)) (successRecord_completed b model counts x (.int 0)))
            (congrArg (·.bind (pyInt rt)) (successRecord_failed b model counts x (.int 0))) rd pid
            (fun changes t => answers.refuses b changes t) ⟨fits.completed_count, fits.failed_count⟩
            fun stored => unrecordable (.counted model counts x written stored)
          unfold Raises
          rw [poll_counted answers written]
          exact raised
  · cases written : (w.dirs b).file .failed with
    | none => exact absurd (.unmarked written) unrecordable
    | some text =>
        rcases failure.cases written with unreadable | ⟨_, ⟨error, traceback, x, rfl⟩, rfl⟩
        · exact ⟨_, w, Program.perform_bind_error (read_marker_torn answers written unreadable) _,
            torn.2, torn.1⟩
        · unfold Raises
          rw [poll_told answers written]
          cases column : errorColumn (.str error.joined) with
          | error exc => exact apply_terminal_raises answers.database w.clock found rd pid column
          | ok column' =>
              obtain ⟨text, isText, stored, -⟩ := errorColumn_str.1 column
              exact absurd (.told error traceback x text written isText stored) unrecordable
  · exact absurd .cancelled unrecordable

end Row

include answers in
/-- `_poll_one` on a terminal answer. -/
theorem perform_poll_one {id answer : String} {job : Job} {input_count : Nat}
    (known : w.job id = some job) (answered : map_status rt job.status = answer)
    (terminal : answer ∈ TERMINAL_STATUSES) :
    Program.perform (machine rd pid) policy (_poll_one rt b id input_count) w =
      Program.perform (machine rd pid) policy (_poll_terminal rt b answer input_count w.clock) w := by
  refine (Program.perform_bind_ok (perform_get_status answers known) _).trans ?_
  rw [answered, if_neg (not_not_intro terminal)]
  exact perform_utcnow answers.database _ w

section Recorded

variable {row : Batch} {id answer : String} {job : Job} (known : w.job id = some job)
variable (answered : map_status rt job.status = answer) (terminal : answer ∈ TERMINAL_STATUSES)
variable (fits : Fits row)

include answers known answered terminal fits in
/-- **key theorem.** A terminal answer is recorded exactly when the marker it asks for
is absent, or whole with values that the columns store. -/
theorem terminal_recorded_iff (rd : RayData) (pid : Nat) (found : w.table.get b = some row)
    (active : isActive row.status = true) (success : SuccessLeft b ((w.dirs b).file .success))
    (failure : FailureLeft b ((w.dirs b).file .failed)) :
    ∃ result w' row', Program.perform (machine rd pid) policy
        (_poll_one rt b id row.input_count) w = some (result, w') ∧
      w'.table.get b = some row' ∧ (row'.status = answer ↔ Recordable b (w.dirs b) answer) := by
  have polled : Program.perform (machine rd pid) policy (_poll_one rt b id row.input_count) w = _ :=
    perform_poll_one answers known answered terminal
  by_cases recordable : Recordable b (w.dirs b) answer
  · obtain ⟨w', row', recorded, updated, same⟩ :=
      poll_terminal_recorded answers found fits recordable
    exact ⟨_, w', row', polled.trans recorded, updated.row, iff_of_true same recordable⟩
  · have raises : Raises rd pid policy (_poll_terminal rt b answer row.input_count w.clock) w :=
      poll_terminal_raises answers found fits terminal success failure recordable
    obtain ⟨exc, w', raised, -, quiet⟩ := raises
    refine ⟨_, w', row, polled.trans raised, quiet.table ▸ found, ?_⟩
    refine iff_of_false (fun same => ?_) recordable
    rw [same, not_active_of_terminal terminal] at active
    cases active

include answers known answered terminal fits in
/-- **The same again**: over any other marker the sweep's loop body changes nothing, and
does not stop the sweep. -/
theorem unrecordable_stuck (found : w.table.get row.id = some row)
    (attached : row.ray_job_id = some id)
    (success : SuccessLeft row.id ((w.dirs row.id).file .success))
    (failure : FailureLeft row.id ((w.dirs row.id).file .failed))
    (unrecordable : ¬ Recordable row.id (w.dirs row.id) answer) :
    ∃ w', Program.perform (machine rd pid) policy (pollRow rt row) w = some (.ok (), w') ∧
      Quiet w w' := by
  have raises : Raises rd pid policy
      (_poll_terminal rt row.id answer row.input_count w.clock) w :=
    poll_terminal_raises answers found fits terminal success failure unrecordable
  obtain ⟨exc, t, raised, caught, quiet⟩ := raises
  have polled : Program.perform (machine rd pid) policy
      (_poll_one rt row.id id row.input_count) w = some (.error exc, t) :=
    (perform_poll_one answers known answered terminal).trans raised
  let message := "poller: failed to update " ++ row.id ++ ": " ++ exc.shown
  have logged : Program.perform (machine rd pid) policy (ask (.log .warning message)) t = _ :=
    perform_log_last answers.database _ _ t
  unfold pollRow
  rw [attached]
  refine ⟨_, (Program.perform_catching_error polled _).trans ?_,
    quiet.trans (quiet_logged t (.warning, message))⟩
  rw [if_pos caught]
  exact logged

end Recorded

end Poll

/-! ## Concrete answers -/

/-- Everything works, and PostgreSQL refuses a count beyond its column. -/
def workingPolicy (op : Op) (_ : World) : Event :=
  match op with
  | .client_ready => ⟨.done, .flag true⟩
  | .commit pending =>
      if pending.storable then ⟨.done, .go⟩
      else ⟨.refused (.overflowError "value out of int32 range"), .go⟩
  | _ => ⟨.done, .go⟩

theorem workingPolicy_answers : Answers workingPolicy where
  database := by
    intro op w database
    cases op with
    | commit pending =>
        have stored : pending.storable = true := database
        simp only [workingPolicy, stored, if_true]
    | _ => rfl
  refuses := by
    intro b changes w unstored
    have refused : Pending.storable (.update b changes) = false := unstored
    refine ⟨.overflowError "value out of int32 range", ?_, rfl⟩
    simp only [workingPolicy, refused, Bool.false_eq_true, if_false]
  disk := fun _ _ _ => rfl
  ready := fun _ => rfl
  ray := fun _ _ => rfl

/-- An active batch whose Ray job has failed. -/
def failedJobRow : Batch where
  id := "batch_1"
  status := "in_progress"
  model := "m"
  ray_job_id := some "raysubmit_1"
  input_count := 1
  completed_count := 0
  failed_count := 0
  max_tokens := 16
  error := none
  input_path := none
  results_path := none
  created_at := 0
  updated_at := 0
  completed_at := none

def failedJob : Job := ⟨"raysubmit_1", "", [], .enum "FAILED", none, none⟩

def failedJobWorld (marker : Option Text) : World :=
  { World.init.setDir "batch_1" (Dir.empty.setFile .failed marker) with
    table := [failedJobRow]
    jobs := [failedJob] }

/-- A Ray that reads and writes nothing. -/
def idleRay : RayData := ⟨fun _ => none, fun _ _ _ => false⟩

theorem no_marker_left {IsRecord : Json.Record → Prop} : MarkerLeft IsRecord none := by
  intro text written
  cases written

/-- The marker of a worker that failed with `RuntimeError(error)`. -/
def failedMarker (error : Str) : Text :=
  Json.dumps (failureRecord "batch_1" error [] ⟨"1.5".toList, rfl⟩)

theorem failedMarker_left (error : Str) : FailureLeft "batch_1" (some (failedMarker error)) := by
  intro text written
  cases written
  exact ⟨_, [], ⟨error, [], _, rfl⟩, List.append_nil _⟩

/-- The error that a marker holds. -/
theorem failedMarker_error {b : String} {error error' traceback : Str} {x : Json.Float}
    (same : failedMarker error = Json.dumps (failureRecord b error' traceback x)) :
    error.joined = error'.joined := by
  have decoded := congrArg Json.loads same
  rw [failedMarker, Json.loads_dumps, Json.loads_dumps, Option.some.injEq] at decoded
  have member := congrArg (dictGet · "error" .null) decoded
  rw [failureRecord_error, failureRecord_error] at member
  exact Json.Value.str.inj (Except.ok.inj member)

theorem recordable_told {error : Str}
    (recordable : Recordable "batch_1" ((failedJobWorld (some (failedMarker error))).dirs "batch_1")
      "failed") : ∃ text, error.joined = .ofText text := by
  generalize answered : "failed" = answer at recordable
  cases recordable with
  | trusted | counted => exact absurd answered (by decide)
  | cancelled => exact absurd answered (by decide)
  | unmarked absent => cases absent
  | told error' traceback x text written isText stored =>
      exact ⟨text, (failedMarker_error (Option.some.inj written)).trans isText⟩

/-- The failed batch, polled over the marker of this error. -/
def polledOver (error : Str) : Option (Except PyException Unit × World) :=
  Program.perform (machine idleRay 0) workingPolicy
    (_poll_one .ascii "batch_1" "raysubmit_1" failedJobRow.input_count)
    (failedJobWorld (some (failedMarker error)))

/-- A worker whose message is a text, and one whose message is half of a surrogate pair. -/
theorem terminal_recorded_told :
    (∃ result w' row', polledOver (.ofText "out of memory".toList) = some (result, w') ∧
        w'.table.get "batch_1" = some row' ∧ row'.status = "failed") ∧
      ∃ result w' row', polledOver [.lone 1152] = some (result, w') ∧
        w'.table.get "batch_1" = some row' ∧ row'.status ≠ "failed" := by
  have failed : map_status .ascii failedJob.status = "failed" := by decide +kernel
  have known (error : Str) :
      (failedJobWorld (some (failedMarker error))).job "raysubmit_1" = some failedJob := rfl
  have found (error : Str) :
      (failedJobWorld (some (failedMarker error))).table.get "batch_1" = some failedJobRow := rfl
  have recorded (error : Str) := terminal_recorded_iff workingPolicy_answers (known error) failed
    (by decide) ⟨rfl, rfl, rfl⟩ idleRay 0 (found error) rfl no_marker_left
    (failedMarker_left error)
  constructor
  · obtain ⟨result, w', row', polled, found, same⟩ := recorded (.ofText "out of memory".toList)
    refine ⟨result, w', row', polled, found, same.2 ?_⟩
    exact .told _ _ _ "out of memory".toList rfl (Str.joined_ofText _) (by decide)
  · obtain ⟨result, w', row', polled, found, same⟩ := recorded [.lone 1152]
    refine ⟨result, w', row', polled, found, fun failed => ?_⟩
    obtain ⟨text, isText⟩ := recordable_told (same.1 failed)
    cases text <;> cases isText

/-- A worker that was killed right after it created `_FAILED`. -/
theorem empty_marker_active :
    ¬ ∀ (rt : Runtime) (rd : RayData) (pid : Nat) (policy : (op : Op) → World → Event) (w : World)
      (b id answer : String) (row : Batch) (job : Job), Answers policy →
      w.table.get b = some row → isActive row.status = true → w.job id = some job →
      map_status rt job.status = answer → answer ∈ TERMINAL_STATUSES →
      SuccessLeft b ((w.dirs b).file .success) → FailureLeft b ((w.dirs b).file .failed) →
      ∃ result w' row', Program.perform (machine rd pid) policy
          (_poll_one rt b id row.input_count) w = some (result, w') ∧
        w'.table.get b = some row' ∧ row'.status = answer := by
  intro recorded
  have left : FailureLeft "batch_1" (some []) := by
    intro text written
    cases written
    exact ⟨failureRecord "batch_1" [] [] ⟨"1.5".toList, rfl⟩, _, ⟨_, _, _, rfl⟩, rfl⟩
  have failed : map_status .ascii failedJob.status = "failed" := by decide +kernel
  obtain ⟨result, w', row', performed, found, same⟩ := recorded .ascii idleRay 0 workingPolicy
    (failedJobWorld (some [])) "batch_1" "raysubmit_1" "failed" failedJobRow failedJob
    workingPolicy_answers rfl rfl rfl failed (by decide) no_marker_left left
  have stays : ((Program.perform (machine idleRay 0) workingPolicy
      (_poll_one .ascii "batch_1" "raysubmit_1" failedJobRow.input_count)
      (failedJobWorld (some []))).bind fun pair =>
        (pair.2.table.get "batch_1").map (·.status)) = some "in_progress" := by decide +kernel
  rw [performed, Option.bind_some, found, Option.map_some, same] at stays
  exact absurd stays (by decide)

end KubeRayBatch.Cluster
