/-
# Cluster.Invariant -- what holds of every batch, whoever steps

`Sound` is the invariant of one view: which process may still write where, what the
row says about the input file and the job, and what the markers can hold.  `Change`
lists every way in which one of the parties changes a view, and `Sound.change` is the
one place where the invariant is shown to survive all of them.

A run may be assumed to be better behaved than the code enforces (`Assumed`); each
clause of the invariant that needs such an assumption carries it.
-/
import KubeRayBatch.Cluster.View
import KubeRayBatch.Cluster.PollOnce
import KubeRayBatch.Worker.JobOutline

namespace KubeRayBatch.Cluster

open Theory Api Worker

set_option autoImplicit false

/-- What is fixed in one deployment. -/
structure Deployment where
  rt : Runtime
  settings : Settings
  environ : Environ
  rd : RayData

/-- What is assumed of a run, beyond what the code enforces. -/
structure Assumed where
  /-- At most one poller task is alive at a time. -/
  alone : Bool
  /-- The status that Ray reports for a job only moves forward. -/
  forward : Bool
  /-- Ray reports success only after the entrypoint has exited with status 0. -/
  honest : Bool
  /-- The clock of the processes never goes back. -/
  clock : Bool
  /-- `main` handles no exception whose text is empty. -/
  spoken : Bool

/-- All of it. -/
def Assumed.all : Assumed := ⟨true, true, true, true, true⟩

/-- The message of an exception that `main` handles is not empty, if that is assumed of a run. -/
def Assumed.Speaks (A : Assumed) (message : Str) : Prop := A.spoken = true → message ≠ []

/-- The text of a failure is not empty, if that is assumed of a run. -/
def Assumed.Says (A : Assumed) (error : String) : Prop := A.spoken = true → error ≠ ""

/-- Who takes a step. -/
inductive Actor where
  | handler (pid : Nat)
  | poller (pid : Nat)
  | worker (pid : Nat)
  | reader (pid : Nat)
  | ray
  deriving DecidableEq, Repr

def Actor.isPoller : Actor → Bool
  | .poller _ => true
  | _ => false

/-! ## The clauses of the invariant -/

/-- A directory in which no job has worked. -/
structure Fresh (d : Dir) : Prop where
  staging : d.staging = none
  results : d.file .results = none
  success : d.file .success = none
  failed : d.file .failed = none

theorem Fresh.setInput {d : Dir} (fresh : Fresh d) (content : Option Text) :
    Fresh (d.setFile .input content) :=
  ⟨fresh.staging, (Dir.setFile_other d .input .results content (by decide)).trans fresh.results,
    (Dir.setFile_other d .input .success content (by decide)).trans fresh.success,
    (Dir.setFile_other d .input .failed content (by decide)).trans fresh.failed⟩

/-- The request that a row and its input file come from. -/
structure Posted (u : Ulid) (request : CreateBatchRequest) (b : String) (dir : Dir) (row : Batch) :
    Prop where
  id : b = newBatchId u
  model : row.model = request.model
  max_tokens : row.max_tokens = request.max_tokens
  input_count : row.input_count = request.input.length
  input : dir.file .input = some (inputText (request.input.map (·.model_dump)))

section Clauses

variable (D : Deployment) (A : Assumed) (b : String)

/-- A row that failed says why. -/
def Explained (row : Batch) : Prop :=
  row.status = "failed" → ∃ error, row.error = some error ∧ A.Says error

/-- The `_FAILED` file of a batch holds a prefix of a record that says why. -/
def FailureTold : Option Text → Prop :=
  MarkerLeft fun record => ∃ error traceback x, A.Speaks error ∧
    record = failureRecord b error traceback x

/-- The status of a job, in the batch vocabulary. -/
def reported (job : Job) : String := map_status D.rt job.status

/-- The directory is what a job of this row leaves when it exits with status 0. -/
def Output (row : Batch) (counts : Counts) (dir : Dir) : Prop :=
  ∃ o, Finished D.rt D.rd (fun _ _ => True) b row.model row.max_tokens [] o counts dir

/-- The job of this row has exited with status 0, and this is what it left. -/
structure Final (dir : Dir) (job : Option Job) (row : Batch) (counts : Counts) : Prop where
  exited : ∃ j, job = some j ∧ j.exit_code = some 0
  output : Output D b row counts dir

/-- Counts other than zero, and all counts of a completed row, are the final ones. -/
structure Shown (dir : Dir) (job : Option Job) (row : Batch) : Prop where
  completed_count : row.completed_count ≠ 0 →
    ∃ counts, Final D b dir job row counts ∧ row.completed_count = counts.completed
  failed_count : row.failed_count ≠ 0 →
    ∃ counts, Final D b dir job row counts ∧ row.failed_count = counts.failed
  completed : row.status = "completed" → ∃ counts, Final D b dir job row counts ∧
    row.completed_count = counts.completed ∧ row.failed_count = counts.failed

structure RowSound (now : Nat) (dir : Dir) (job : Option Job) (row : Batch) : Prop where
  origin : ∃ u request, Posted u request b dir row
  attached : ∀ id, row.ray_job_id = some id → ∃ j, job = some j ∧ j.submission_id = id
  literal : ∃ status : BatchStatus, row.status = status.literal
  shape : A.alone = true → A.forward = true → Shape row
  behind : A.alone = true → A.forward = true → row.ray_job_id ≠ none →
    ∀ j, job = some j → Behind row.status (reported D j)
  created : A.clock = true → row.created_at ≤ now
  dated : A.clock = true → ∀ t, row.completed_at = some t → row.created_at ≤ t
  shown : A.honest = true → Shown D b dir job row
  explained : A.alone = true → Explained A row

structure JobSound (dir : Dir) (row : Batch) (job : Job) : Prop where
  entrypoint : job.entrypoint = entrypointOf b row.model row.max_tokens
  idle : job.runner = none → job.exit_code = none
  finished : job.exit_code = some 0 → ∃ counts, Output D b row counts dir
  succeeded : A.honest = true → reported D job = "completed" → job.exit_code = some 0

/-- **The invariant** of one batch. -/
structure Sound (now : Nat) (v : View) : Prop where
  unowned : v.owner = none → v.row = none
  jobless : v.row = none → v.job = none
  fresh : (∀ job, v.job = some job → job.runner = none) → Fresh v.dir
  success : SuccessLeft b (v.dir.file .success)
  failure : FailureTold A b (v.dir.file .failed)
  row : ∀ row, v.row = some row → RowSound D A b now v.dir v.job row
  job : ∀ row job, v.row = some row → v.job = some job → JobSound D A b v.dir row job

/-! ## The steps -/

/-- A row once the id of its job is noted. -/
def attachedRow (row : Batch) (id : String) (updated : Nat) : Batch :=
  { row with ray_job_id := some id, updated_at := updated }

/-- A row that its handler has given up. -/
def markedRow (row : Batch) (error : String) (ended updated : Nat) : Batch :=
  { row with
    status := "failed"
    error := some error
    completed_at := some ended
    updated_at := updated }

theorem attachedRow_kept {row : Batch} (unattached : row.ray_job_id = none) (id : String)
    (updated : Nat) : Kept row (attachedRow row id updated) :=
  ⟨rfl, rfl, rfl, rfl, rfl, rfl, rfl, fun _ isId => by rw [unattached] at isId; cases isId⟩

theorem markedRow_kept (row : Batch) (error : String) (ended updated : Nat) :
    Kept row (markedRow row error ended updated) :=
  ⟨rfl, rfl, rfl, rfl, rfl, rfl, rfl, fun _ isId => isId⟩

/-- What a poller may turn a row into. -/
structure Polled (dir : Dir) (job : Option Job) (row row' : Batch) : Prop where
  attached : row.ray_job_id ≠ none
  kept : Kept row row'
  literal : ∃ status : BatchStatus, row'.status = status.literal
  active : A.alone = true → isActive row.status = true
  ordered : A.alone = true → A.forward = true → Behind row.status row'.status ∧ Shape row' ∧
    ∀ j, job = some j → Behind row'.status (reported D j)
  dated : A.clock = true → ∀ t, row'.completed_at = some t → row'.created_at ≤ t
  shown : A.honest = true → Shown D b dir job row'
  explained : A.alone = true → Explained A row'
  completed_count : A.honest = true → row.completed_count ≠ 0 →
    row'.completed_count = row.completed_count
  failed_count : A.honest = true → row.failed_count ≠ 0 → row'.failed_count = row.failed_count

/-- **Every change** of a view, and who makes it. -/
inductive Change (now : Nat) : Actor → View → View → Prop where
  /-- A handler draws the id. -/
  | issue {v : View} (pid : Nat) (unowned : v.owner = none) :
      Change now (.handler pid) v { v with owner := some pid }
  /-- It writes the input file. -/
  | input {v : View} (pid : Nat) (dir : Dir) (owned : v.owner = some pid) (unborn : v.row = none)
      (fresh : Fresh dir) : Change now (.handler pid) v { v with dir := dir }
  /-- It inserts the row. -/
  | insert {v : View} (pid : Nat) (u : Ulid) (request : CreateBatchRequest) (input_path : String)
      (owned : v.owner = some pid) (unborn : v.row = none) (isBatch : b = newBatchId u)
      (input : v.dir.file .input = some (inputText (request.input.map (·.model_dump)))) :
      Change now (.handler pid) v
        { v with row := some ((newRow D.settings request b input_path).row now) }
  /-- It submits the job. -/
  | submit {v : View} (pid : Nat) (row : Batch) (id : String) (env : RuntimeEnv)
      (owned : v.owner = some pid) (found : v.row = some row) (unattached : row.ray_job_id = none)
      (unsubmitted : v.job = none) :
      Change now (.handler pid) v
        { v with job := some (submittedJob id (entrypointOf b row.model row.max_tokens) env) }
  /-- It notes the id of the job. -/
  | attach {v : View} (pid : Nat) (row : Batch) (job : Job) (updated : Nat)
      (owned : v.owner = some pid) (found : v.row = some row) (unattached : row.ray_job_id = none)
      (queued : row.status = "queued") (submitted : v.job = some job) :
      Change now (.handler pid) v
        { v with row := some (attachedRow row job.submission_id updated) }
  /-- It gives the batch up. -/
  | mark {v : View} (pid : Nat) (row : Batch) (error : String) (ended updated : Nat)
      (owned : v.owner = some pid) (found : v.row = some row) (unattached : row.ray_job_id = none)
      (queued : row.status = "queued") (dated : A.clock = true → row.created_at ≤ ended)
      (said : error ≠ "") :
      Change now (.handler pid) v { v with row := some (markedRow row error ended updated) }
  /-- Ray starts the process of the job. -/
  | start {v : View} (pid : Nat) (job : Job) (submitted : v.job = some job)
      (idle : job.runner = none) :
      Change now .ray v { v with job := some { job with runner := some pid } }
  /-- That process changes the directory. -/
  | work {v : View} (pid : Nat) (job : Job) (dir : Dir) (submitted : v.job = some job)
      (runs : job.runner = some pid) (running : job.exit_code = none)
      (stepped : DirStep D.rt (fun _ _ => True) A.Speaks b v.dir dir) :
      Change now (.worker pid) v { v with dir := dir }
  /-- It exits. -/
  | exit {v : View} (pid : Nat) (job : Job) (code : Nat) (submitted : v.job = some job)
      (runs : job.runner = some pid) (running : job.exit_code = none)
      (finished : code = 0 → ∀ row, v.row = some row → ∃ counts, Output D b row counts v.dir) :
      Change now (.worker pid) v { v with job := some { job with exit_code := some code } }
  /-- Ray reports another status of the job. -/
  | report {v : View} (job : Job) (status : RayStatus) (submitted : v.job = some job)
      (forward : A.forward = true → Behind (reported D job) (map_status D.rt status))
      (honest : A.honest = true → map_status D.rt status = "completed" → job.exit_code = some 0) :
      Change now .ray v { v with job := some { job with status := status } }
  /-- A poller updates the row. -/
  | poll {v : View} (pid : Nat) (row row' : Batch) (found : v.row = some row)
      (polled : Polled D A b v.dir v.job row row') :
      Change now (.poller pid) v { v with row := some row' }

end Clauses

/-! ## The invariant survives -/

section Survives

variable {D : Deployment} {A : Assumed} {b : String} {now : Nat}

/-- What a job leaves determines the counts. -/
theorem Output.unique {row : Batch} {counts counts' : Counts} {dir : Dir}
    (first : Output D b row counts dir) (second : Output D b row counts' dir) :
    counts.completed = counts'.completed ∧ counts.failed = counts'.failed := by
  obtain ⟨o, left⟩ := first
  obtain ⟨o', left'⟩ := second
  have same : o.result = o'.result := Option.some.inj (left.results.symm.trans left'.results)
  have tallies := left.tallied.symm.trans (same ▸ left'.tallied)
  exact Prod.mk.inj (Except.ok.inj tallies)

theorem Output.row {row row' : Batch} {counts : Counts} {dir : Dir}
    (output : Output D b row counts dir) (model : row'.model = row.model)
    (max_tokens : row'.max_tokens = row.max_tokens) : Output D b row' counts dir := by
  unfold Output
  rw [model, max_tokens]
  exact output

theorem Final.row {row row' : Batch} {counts : Counts} {dir : Dir} {job : Option Job}
    (final : Final D b dir job row counts) (model : row'.model = row.model)
    (max_tokens : row'.max_tokens = row.max_tokens) : Final D b dir job row' counts :=
  ⟨final.exited, final.output.row model max_tokens⟩

/-- As long as the job runs, nothing is final. -/
theorem Final.not_running {row : Batch} {counts : Counts} {dir : Dir} {j : Job}
    (running : j.exit_code = none) : ¬ Final D b dir (some j) row counts := by
  rintro ⟨⟨j', same, exited⟩, -⟩
  cases same
  rw [running] at exited
  cases exited

theorem Shown.mono {dir dir' : Dir} {job job' : Option Job} {row : Batch}
    (shown : Shown D b dir job row)
    (stays : ∀ counts, Final D b dir job row counts → Final D b dir' job' row counts) :
    Shown D b dir' job' row where
  completed_count := fun nonzero =>
    let ⟨counts, final, same⟩ := shown.completed_count nonzero
    ⟨counts, stays counts final, same⟩
  failed_count := fun nonzero =>
    let ⟨counts, final, same⟩ := shown.failed_count nonzero
    ⟨counts, stays counts final, same⟩
  completed := fun completed =>
    let ⟨counts, final, same⟩ := shown.completed completed
    ⟨counts, stays counts final, same⟩

/-- A row that is not completed and keeps its counts shows no more than before. -/
theorem Shown.row {dir : Dir} {job : Option Job} {row row' : Batch} (shown : Shown D b dir job row)
    (kept : Kept row row') (completed_count : row'.completed_count = row.completed_count)
    (failed_count : row'.failed_count = row.failed_count)
    (completed : row'.status = "completed" → row.status = "completed") :
    Shown D b dir job row' where
  completed_count := fun nonzero =>
    let ⟨counts, final, same⟩ := shown.completed_count (completed_count ▸ nonzero)
    ⟨counts, final.row kept.model kept.max_tokens, completed_count.trans same⟩
  failed_count := fun nonzero =>
    let ⟨counts, final, same⟩ := shown.failed_count (failed_count ▸ nonzero)
    ⟨counts, final.row kept.model kept.max_tokens, failed_count.trans same⟩
  completed := fun isCompleted =>
    let ⟨counts, final, same, same'⟩ := shown.completed (completed isCompleted)
    ⟨counts, final.row kept.model kept.max_tokens, completed_count.trans same,
      failed_count.trans same'⟩

theorem Posted.frame {u : Ulid} {request : CreateBatchRequest} {dir dir' : Dir} {row row' : Batch}
    (posted : Posted u request b dir row) (input : dir'.file .input = dir.file .input)
    (kept : Kept row row') : Posted u request b dir' row' :=
  ⟨posted.id, kept.model.trans posted.model, kept.max_tokens.trans posted.max_tokens,
    kept.input_count.trans posted.input_count, input.trans posted.input⟩

/-- Another job status, or another directory with the same input. -/
theorem RowSound.frame {dir dir' : Dir} {job job' : Option Job} {row : Batch}
    (sound : RowSound D A b now dir job row) (input : dir'.file .input = dir.file .input)
    (attached : ∀ j, job = some j → ∃ j', job' = some j' ∧ j'.submission_id = j.submission_id)
    (behind : A.forward = true → row.ray_job_id ≠ none → ∀ j', job' = some j' →
      ∃ j, job = some j ∧ Behind (reported D j) (reported D j'))
    (final : ∀ counts, Final D b dir job row counts → Final D b dir' job' row counts) :
    RowSound D A b now dir' job' row where
  origin := by
    obtain ⟨u, request, posted⟩ := sound.origin
    exact ⟨u, request, posted.frame input (Kept.refl row)⟩
  attached := by
    intro id isId
    obtain ⟨j, isJob, same⟩ := sound.attached id isId
    obtain ⟨j', isJob', same'⟩ := attached j isJob
    exact ⟨j', isJob', same'.trans same⟩
  literal := sound.literal
  shape := sound.shape
  behind := by
    intro alone forward hasJob j' isJob'
    obtain ⟨j, isJob, later⟩ := behind forward hasJob j' isJob'
    exact (sound.behind alone forward hasJob j isJob).trans later
  created := sound.created
  dated := sound.dated
  shown := fun honest => (sound.shown honest).mono final
  explained := sound.explained

/-- The row that a request inserts. -/
theorem RowSound.inserted {dir : Dir} {u : Ulid} {request : CreateBatchRequest} {input_path : String}
    (isBatch : b = newBatchId u)
    (input : dir.file .input = some (inputText (request.input.map (·.model_dump)))) :
    RowSound D A b now dir none ((newRow D.settings request b input_path).row now) where
  origin := ⟨u, request, isBatch, rfl, rfl, rfl, input⟩
  attached := fun _ isId => by cases isId
  literal := ⟨.queued, rfl⟩
  shape := fun _ _ => by
    constructor <;> simp [NewBatch.row, newRow, TERMINAL_STATUSES]
  behind := fun _ _ hasJob => absurd rfl hasJob
  created := fun _ => Nat.le_refl now
  dated := fun _ _ isEnd => by cases isEnd
  shown := fun _ => by
    constructor <;> simp [NewBatch.row, newRow]
  explained := fun _ failed => absurd failed (by simp [NewBatch.row, newRow])

/-- The row of a batch whose job was noted. -/
theorem RowSound.attach {dir : Dir} {job : Job} {row : Batch}
    (sound : RowSound D A b now dir (some job) row) (unattached : row.ray_job_id = none)
    (queued : row.status = "queued") (updated : Nat) :
    RowSound D A b now dir (some job) (attachedRow row job.submission_id updated) where
  origin := by
    obtain ⟨u, request, posted⟩ := sound.origin
    exact ⟨u, request, posted.frame rfl (attachedRow_kept unattached _ updated)⟩
  attached := by
    intro id isId
    cases isId
    exact ⟨job, rfl, rfl⟩
  literal := sound.literal
  shape := fun alone forward =>
    let shape := sound.shape alone forward
    ⟨shape.completed_at, shape.error, shape.completed_count, shape.failed_count, shape.uncounted⟩
  behind := by
    intro _ _ _ j _
    show Behind row.status (reported D j)
    rw [queued]
    exact behind_queued _
  created := sound.created
  dated := sound.dated
  shown := fun honest =>
    (sound.shown honest).row (attachedRow_kept unattached _ updated) rfl rfl id
  explained := sound.explained

/-- The row of a batch that was given up. -/
theorem RowSound.mark {dir : Dir} {job : Option Job} {row : Batch}
    (sound : RowSound D A b now dir job row) (unattached : row.ray_job_id = none)
    (queued : row.status = "queued") {error : String} {ended : Nat} (updated : Nat)
    (dated : A.clock = true → row.created_at ≤ ended) (said : error ≠ "") :
    RowSound D A b now dir job (markedRow row error ended updated) where
  origin := by
    obtain ⟨u, request, posted⟩ := sound.origin
    exact ⟨u, request, posted.frame rfl (markedRow_kept row error ended updated)⟩
  attached := sound.attached
  literal := ⟨.failed, rfl⟩
  shape := by
    intro alone forward
    obtain ⟨-, -, none, none'⟩ :=
      (sound.shape alone forward).active (by rw [queued]; rfl)
    constructor <;> simp [markedRow, none, none', TERMINAL_STATUSES]
  behind := fun _ _ hasJob => absurd unattached hasJob
  created := sound.created
  dated := by
    intro clock t isEnd
    cases isEnd
    exact dated clock
  shown := fun honest =>
    (sound.shown honest).row (markedRow_kept row error ended updated) rfl rfl
      fun completed => absurd completed (by simp [markedRow])
  explained := fun _ _ => ⟨error, rfl, fun _ => said⟩

/-- The row that a poller updated. -/
theorem RowSound.poll {dir : Dir} {job : Option Job} {row row' : Batch}
    (sound : RowSound D A b now dir job row) (polled : Polled D A b dir job row row') :
    RowSound D A b now dir job row' where
  origin := by
    obtain ⟨u, request, posted⟩ := sound.origin
    exact ⟨u, request, posted.frame rfl polled.kept⟩
  attached := by
    intro id isId
    obtain ⟨id', isId'⟩ := Option.ne_none_iff_exists'.1 polled.attached
    have same := polled.kept.ray_job_id id' isId'
    rw [isId] at same
    cases same
    exact sound.attached id isId'
  literal := polled.literal
  shape := fun alone forward => (polled.ordered alone forward).2.1
  behind := fun alone forward _ => (polled.ordered alone forward).2.2
  created := fun clock => polled.kept.created_at ▸ sound.created clock
  dated := polled.dated
  shown := polled.shown
  explained := polled.explained

theorem JobSound.row {dir : Dir} {job : Job} {row row' : Batch} (sound : JobSound D A b dir row job)
    (kept : Kept row row') : JobSound D A b dir row' job where
  entrypoint := by rw [kept.model, kept.max_tokens]; exact sound.entrypoint
  idle := sound.idle
  finished := fun exited =>
    let ⟨counts, output⟩ := sound.finished exited
    ⟨counts, output.row kept.model kept.max_tokens⟩
  succeeded := sound.succeeded

/-- A worker leaves prefixes of its markers only. -/
theorem markers_step {dir dir' : Dir} {Granted : Dir → Text → Prop}
    (stepped : DirStep D.rt Granted A.Speaks b dir dir') (success : SuccessLeft b (dir.file .success))
    (failure : FailureTold A b (dir.file .failed)) :
    SuccessLeft b (dir'.file .success) ∧ FailureTold A b (dir'.file .failed) := by
  cases stepped with
  | staging made files keeps => exact ⟨success, failure⟩
  | promote content files granted =>
      have same := Dir.setFile_other dir .results .success (some content) (by decide)
      have same' := Dir.setFile_other dir .results .failed (some content) (by decide)
      exact ⟨fun text written => success text (same.symm.trans written),
        fun text written => failure text (same'.symm.trans written)⟩
  | dropFailed =>
      have same := Dir.setFile_other dir .failed .success none (by decide)
      refine ⟨same ▸ success, fun text written => ?_⟩
      rw [Dir.setFile_same] at written
      cases written
  | success content text more model counts x results granted tallied written =>
      have same := Dir.setFile_other dir .success .failed (some text) (by decide)
      refine ⟨fun text' written' => ?_, same ▸ failure⟩
      rw [Dir.setFile_same] at written'
      cases written'
      exact ⟨_, more, ⟨model, counts, x, rfl⟩, written⟩
  | failed text more error traceback x said written =>
      have same := Dir.setFile_other dir .failed .success (some text) (by decide)
      refine ⟨same ▸ success, fun text' written' => ?_⟩
      rw [Dir.setFile_same] at written'
      cases written'
      exact ⟨_, more, ⟨error, traceback, x, said, rfl⟩, written⟩

/-- A view whose job changed in what Ray knows of its process only. -/
theorem Sound.rejob {v : View} {job job' : Job} (sound : Sound D A b now v)
    (submitted : v.job = some job) (submission_id : job'.submission_id = job.submission_id)
    (entrypoint : job'.entrypoint = job.entrypoint)
    (idle : job'.runner = none → job.runner = none ∧ job'.exit_code = none)
    (kept : job.exit_code = some 0 → job'.exit_code = some 0)
    (forward : A.forward = true → Behind (reported D job) (reported D job'))
    (finished : job'.exit_code = some 0 → ∀ row, v.row = some row → ∃ counts, Output D b row counts v.dir)
    (succeeded : A.honest = true → reported D job' = "completed" → job'.exit_code = some 0) :
    Sound D A b now { v with job := some job' } where
  unowned := sound.unowned
  jobless := fun unborn => by rw [sound.jobless unborn] at submitted; cases submitted
  fresh := by
    intro neverRun
    refine sound.fresh fun j isJob => ?_
    rw [submitted] at isJob
    cases isJob
    exact (idle (neverRun job' rfl)).1
  success := sound.success
  failure := sound.failure
  row := by
    intro row found
    refine (sound.row row found).frame rfl ?_ ?_ ?_
    · intro j isJob
      rw [submitted] at isJob
      cases isJob
      exact ⟨job', rfl, submission_id⟩
    · intro moves _ j' isJob'
      cases isJob'
      exact ⟨job, submitted, forward moves⟩
    · rintro counts ⟨⟨j, isJob, exited⟩, output⟩
      rw [submitted] at isJob
      cases isJob
      exact ⟨⟨job', rfl, kept exited⟩, output⟩
  job := by
    intro row j' found isJob'
    cases isJob'
    have before := sound.job row job found submitted
    exact ⟨entrypoint.trans before.entrypoint, fun none => (idle none).2,
      fun exited => finished exited row found, succeeded⟩

/-- A view whose row changed in what is not written by the insert. -/
theorem Sound.rerow {v : View} {row row' : Batch} (sound : Sound D A b now v)
    (found : v.row = some row) (kept : Kept row row') (rowSound : RowSound D A b now v.dir v.job row') :
    Sound D A b now { v with row := some row' } where
  unowned := fun unowned => by rw [sound.unowned unowned] at found; cases found
  jobless := fun unborn => by cases unborn
  fresh := sound.fresh
  success := sound.success
  failure := sound.failure
  row := by
    intro other isRow
    cases isRow
    exact rowSound
  job := by
    intro other job isRow submitted
    cases isRow
    exact (sound.job row job found submitted).row kept

/-- A submitted job has its row. -/
theorem Sound.job_row {v : View} {job : Job} (sound : Sound D A b now v)
    (submitted : v.job = some job) : ∃ row, v.row = some row := by
  cases isRow : v.row with
  | none => rw [sound.jobless isRow] at submitted; cases submitted
  | some row => exact ⟨row, rfl⟩

/-- A view in which the input file of a batch was written. -/
theorem Sound.input {v : View} {dir : Dir} (sound : Sound D A b now v) (unborn : v.row = none)
    (fresh : Fresh dir) : Sound D A b now { v with dir := dir } := by
  have noMarker : ∀ {IsRecord : Json.Record → Prop}, MarkerLeft IsRecord none := by
    intro IsRecord text written
    cases written
  refine ⟨sound.unowned, sound.jobless, fun _ => fresh, ?_, ?_, ?_, ?_⟩
  · exact fresh.success ▸ noMarker
  · exact fresh.failed ▸ noMarker
  · exact fun row found => by rw [unborn] at found; cases found
  · exact fun row _ found => by rw [unborn] at found; cases found

/-- A view in which a row was inserted. -/
theorem Sound.insert {v : View} {pid : Nat} {u : Ulid} {request : CreateBatchRequest}
    {input_path : String} (sound : Sound D A b now v) (owned : v.owner = some pid)
    (unborn : v.row = none) (isBatch : b = newBatchId u)
    (input : v.dir.file .input = some (inputText (request.input.map (·.model_dump)))) :
    Sound D A b now { v with row := some ((newRow D.settings request b input_path).row now) } := by
  have jobless := sound.jobless unborn
  refine ⟨fun unowned => ?_, nofun, sound.fresh, sound.success, sound.failure, ?_, ?_⟩
  · rw [owned] at unowned
    cases unowned
  · intro row isRow
    cases isRow
    rw [jobless]
    exact RowSound.inserted isBatch input
  · intro row job _ submitted
    rw [jobless] at submitted
    cases submitted

/-- A view in which a job was submitted. -/
theorem Sound.submit {v : View} {row : Batch} (sound : Sound D A b now v)
    (found : v.row = some row) (unattached : row.ray_job_id = none) (unsubmitted : v.job = none)
    (id : String) (env : RuntimeEnv) :
    Sound D A b now
      { v with job := some (submittedJob id (entrypointOf b row.model row.max_tokens) env) } := by
  refine ⟨sound.unowned, fun unborn => ?_, fun _ => sound.fresh fun job submitted => ?_,
    sound.success, sound.failure, ?_, ?_⟩
  · rw [found] at unborn
    cases unborn
  · rw [unsubmitted] at submitted
    cases submitted
  · intro other found'
    refine (sound.row other found').frame rfl ?_ ?_ ?_
    · exact fun j isJob => by rw [unsubmitted] at isJob; cases isJob
    · intro _ hasJob
      rw [found] at found'
      cases found'
      exact absurd unattached hasJob
    · rintro counts ⟨⟨j, isJob, -⟩, -⟩
      rw [unsubmitted] at isJob
      cases isJob
  · intro other job found' isJob
    rw [found] at found'
    cases found'
    cases isJob
    refine ⟨rfl, fun _ => rfl, nofun, fun _ succeeded => ?_⟩
    rw [reported, submittedJob, map_status_pending] at succeeded
    exact absurd succeeded (by decide)

/-- A view in which the process of a job changed the directory. -/
theorem Sound.work {v : View} {pid : Nat} {job : Job} {dir : Dir} (sound : Sound D A b now v)
    (submitted : v.job = some job) (runs : job.runner = some pid) (running : job.exit_code = none)
    (stepped : DirStep D.rt (fun _ _ => True) A.Speaks b v.dir dir) :
    Sound D A b now { v with dir := dir } := by
  obtain ⟨success, failure⟩ := markers_step stepped sound.success sound.failure
  refine ⟨sound.unowned, sound.jobless, ?_, success, failure, ?_, ?_⟩
  · intro neverRun
    have idle := neverRun job submitted
    rw [runs] at idle
    cases idle
  · intro row found
    refine (sound.row row found).frame stepped.input (fun j isJob => ⟨j, isJob, rfl⟩)
      (fun _ _ j isJob => ⟨j, isJob, Behind.refl _⟩) fun counts final => ?_
    rw [submitted] at final
    exact absurd final (Final.not_running running)
  · intro row j found isJob
    have before := sound.job row j found isJob
    rw [submitted] at isJob
    cases isJob
    refine ⟨before.entrypoint, before.idle, fun exited => ?_, before.succeeded⟩
    rw [running] at exited
    cases exited

/-- **The invariant survives every change.** -/
theorem Sound.change {actor : Actor} {v v' : View} (sound : Sound D A b now v)
    (changed : Change D A b now actor v v') : Sound D A b now v' := by
  cases changed with
  | issue pid unowned =>
      exact ⟨nofun, sound.jobless, sound.fresh, sound.success, sound.failure, sound.row, sound.job⟩
  | input pid dir owned unborn fresh => exact sound.input unborn fresh
  | insert pid u request input_path owned unborn isBatch input =>
      exact sound.insert owned unborn isBatch input
  | submit pid row id env owned found unattached unsubmitted =>
      exact sound.submit found unattached unsubmitted id env
  | attach pid row job updated owned found unattached queued submitted =>
      refine sound.rerow found (attachedRow_kept unattached _ updated) ?_
      have rowSound := sound.row row found
      rw [submitted] at rowSound ⊢
      exact rowSound.attach unattached queued updated
  | mark pid row error ended updated owned found unattached queued dated said =>
      exact sound.rerow found (markedRow_kept row error ended updated)
        ((sound.row row found).mark unattached queued updated dated said)
  | start pid job submitted idle =>
      refine sound.rejob submitted rfl rfl (fun none => by cases none) id
        (fun _ => Behind.refl _) ?_ ?_
      · exact fun exited row found => (sound.job row job found submitted).finished exited
      · intro honest succeeded
        obtain ⟨row, isRow⟩ := sound.job_row submitted
        exact (sound.job row job isRow submitted).succeeded honest succeeded
  | work pid job dir submitted runs running stepped =>
      exact sound.work submitted runs running stepped
  | exit pid job code submitted runs running finished =>
      refine sound.rejob submitted rfl rfl ?_ ?_ (fun _ => Behind.refl _) ?_ ?_
      · exact fun idle => by rw [runs] at idle; cases idle
      · exact fun exited => by rw [running] at exited; cases exited
      · exact fun exited => finished (Option.some.inj exited)
      · intro honest succeeded
        obtain ⟨row, isRow⟩ := sound.job_row submitted
        have exited := (sound.job row job isRow submitted).succeeded honest succeeded
        rw [running] at exited
        cases exited
  | report job status submitted forward honest =>
      refine sound.rejob submitted rfl rfl ?_ id forward ?_ honest
      · intro idle
        obtain ⟨row, isRow⟩ := sound.job_row submitted
        exact ⟨idle, (sound.job row job isRow submitted).idle idle⟩
      · exact fun exited row found => (sound.job row job found submitted).finished exited
  | poll pid row row' found polled =>
      exact sound.rerow found polled.kept ((sound.row row found).poll polled)

/-- Time passes. -/
theorem Sound.tick {v : View} {now' : Nat} (sound : Sound D A b now v)
    (later : A.clock = true → now ≤ now') : Sound D A b now' v :=
  ⟨sound.unowned, sound.jobless, sound.fresh, sound.success, sound.failure,
    fun row found =>
      let before := sound.row row found
      ⟨before.origin, before.attached, before.literal, before.shape, before.behind,
        fun clock => Nat.le_trans (before.created clock) (later clock), before.dated, before.shown, before.explained⟩,
    sound.job⟩

/-- Nothing has happened to a batch yet. -/
theorem Sound.init : Sound D A b now ⟨none, none, .empty, none⟩ where
  unowned := fun _ => rfl
  jobless := fun _ => rfl
  fresh := fun _ => ⟨rfl, rfl, rfl, rfl⟩
  success := fun _ written => by cases written
  failure := fun _ written => by cases written
  row := fun _ found => by cases found
  job := fun _ _ found => by cases found

/-! ## What a change does to a row -/

/-- A row stays, and keeps what was written once. -/
theorem Change.kept {actor : Actor} {v v' : View} (changed : Change D A b now actor v v') {row : Batch}
    (found : v.row = some row) : ∃ row', v'.row = some row' ∧ Kept row row' := by
  cases changed with
  | issue | input | submit | start | work | exit | report => exact ⟨row, found, Kept.refl row⟩
  | insert pid u request input_path owned unborn => rw [unborn] at found; cases found
  | attach pid other job updated owned found' unattached =>
      rw [found] at found'
      cases found'
      exact ⟨_, rfl, attachedRow_kept unattached _ updated⟩
  | mark pid other error ended updated owned found' unattached =>
      rw [found] at found'
      cases found'
      exact ⟨_, rfl, markedRow_kept row error ended updated⟩
  | poll pid other row' found' polled =>
      rw [found] at found'
      cases found'
      exact ⟨row', rfl, polled.kept⟩

/-- The status of a row only moves forward, with one poller and a forward Ray. -/
theorem Change.behind {actor : Actor} {v v' : View} (changed : Change D A b now actor v v')
    (alone : A.alone = true) (forward : A.forward = true) {row row' : Batch}
    (found : v.row = some row) (found' : v'.row = some row') : Behind row.status row'.status := by
  cases changed with
  | issue | input | submit | start | work | exit | report =>
      have same : row = row' := Option.some.inj (found.symm.trans found')
      exact same ▸ Behind.refl row.status
  | insert pid u request input_path owned unborn => rw [unborn] at found; cases found
  | attach pid other job updated owned isRow =>
      rw [found] at isRow
      cases isRow
      cases found'
      exact Behind.refl row.status
  | mark pid other error ended updated owned isRow unattached queued =>
      rw [found] at isRow
      cases isRow
      rw [queued]
      exact behind_queued _
  | poll pid other _ isRow polled =>
      rw [found] at isRow
      cases isRow
      cases found'
      exact (polled.ordered alone forward).1

/-- A row that is over stays as it is, with one poller or as long as no poller acts. -/
theorem Change.ended {actor : Actor} {v v' : View} (changed : Change D A b now actor v v')
    (lonely : A.alone = true ∨ actor.isPoller = false) {row : Batch} (found : v.row = some row)
    (inactive : isActive row.status = false) : ∃ row', v'.row = some row' ∧ Frozen row row' := by
  cases changed with
  | issue | input | submit | start | work | exit | report => exact ⟨row, found, Frozen.refl row⟩
  | insert pid u request input_path owned unborn => rw [unborn] at found; cases found
  | attach pid other job updated owned isRow unattached queued =>
      rw [found] at isRow
      cases isRow
      rw [queued] at inactive
      cases inactive
  | mark pid other error ended updated owned isRow unattached queued =>
      rw [found] at isRow
      cases isRow
      rw [queued] at inactive
      cases inactive
  | poll pid other row' isRow polled =>
      rw [found] at isRow
      cases isRow
      rcases lonely with alone | idle
      · rw [polled.active alone] at inactive
        cases inactive
      · cases idle

end Survives

end KubeRayBatch.Cluster
