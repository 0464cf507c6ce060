/-
# Cluster.Lifecycle -- what a row of the batches table may look like, and become

The life of a batch has three stages: it waits, it runs, it is over in one of three
ways.  `Behind` orders statuses by these stages, `Shape` says which columns a row has
at which stage, and `Kept` names the columns that nothing writes after the insert.
These are statements of purpose, not translations: the modules about the cluster show
that the code keeps them.

* `listed_iff`: the query of the poller selects exactly the rows whose status is not
  terminal;
* `Behind.trans`: statuses that only move forward stay behind whatever comes later.
-/
import KubeRayBatch.Api.RayClient

namespace KubeRayBatch.Cluster

open Theory Api

set_option autoImplicit false

/-! ## Stages -/

/-- Waiting, running, over. -/
def stage (status : String) : Nat :=
  if status = "queued" then 0 else if status = "in_progress" then 1 else 2

/-- The second status may follow the first: it is the same, or of a later stage. -/
def Behind (before after : String) : Prop := before = after ∨ stage before < stage after

theorem Behind.refl (status : String) : Behind status status := .inl rfl

theorem Behind.trans {a b c : String} (first : Behind a b) (second : Behind b c) : Behind a c := by
  rcases first with rfl | earlier
  · exact second
  rcases second with rfl | later
  · exact .inr earlier
  · exact .inr (Nat.lt_trans earlier later)

theorem behind_queued (status : String) : Behind "queued" status := by
  by_cases same : status = "queued"
  · exact .inl same.symm
  · right
    show 0 < stage status
    unfold stage
    rw [if_neg same]
    split <;> omega

/-- Of the five statuses, those that are not active are the terminal ones. -/
theorem terminal_iff (status : BatchStatus) :
    status.literal ∈ TERMINAL_STATUSES ↔ isActive status.literal = false := by
  cases status <;> decide

/-- **The query of the poller** selects a row exactly when its status is not terminal. -/
theorem listed_iff {table : Table} {row : Batch} (mem : row ∈ table) {status : BatchStatus}
    (literal : row.status = status.literal) :
    row ∈ table.active ↔ row.status ∉ TERMINAL_STATUSES := by
  rw [Table.active, List.mem_filter, literal, terminal_iff]
  simp [mem]

/-! ## Columns -/

/-- The columns of a row agree with its status. -/
structure Shape (row : Batch) : Prop where
  completed_at : row.completed_at.isSome = true ↔ row.status ∈ TERMINAL_STATUSES
  error : row.error.isSome = true ↔ row.status = "failed"
  completed_count : 0 ≤ row.completed_count
  failed_count : 0 ≤ row.failed_count
  uncounted : row.status ≠ "completed" → row.completed_count = 0 ∧ row.failed_count = 0

/-- A row that is not over shows no sign of an end. -/
theorem Shape.active {row : Batch} (shape : Shape row) (active : isActive row.status = true) :
    row.completed_at = none ∧ row.error = none ∧ row.completed_count = 0 ∧ row.failed_count = 0 := by
  have notTerminal : row.status ∉ TERMINAL_STATUSES := fun terminal => by
    simp [not_active_of_terminal terminal] at active
  have notFailed : row.status ≠ "failed" := fun failed => notTerminal (by simp [failed, TERMINAL_STATUSES])
  have notCompleted : row.status ≠ "completed" := fun completed =>
    notTerminal (by simp [completed, TERMINAL_STATUSES])
  refine ⟨?_, ?_, shape.uncounted notCompleted⟩
  · exact Option.not_isSome_iff_eq_none.1 (mt shape.completed_at.1 notTerminal)
  · exact Option.not_isSome_iff_eq_none.1 (mt shape.error.1 notFailed)

/-- The columns that are written once, by the insert, or by the first who sets them. -/
structure Kept (row row' : Batch) : Prop where
  id : row'.id = row.id
  model : row'.model = row.model
  input_count : row'.input_count = row.input_count
  max_tokens : row'.max_tokens = row.max_tokens
  input_path : row'.input_path = row.input_path
  results_path : row'.results_path = row.results_path
  created_at : row'.created_at = row.created_at
  ray_job_id : ∀ id, row.ray_job_id = some id → row'.ray_job_id = some id

theorem Kept.refl (row : Batch) : Kept row row :=
  ⟨rfl, rfl, rfl, rfl, rfl, rfl, rfl, fun _ attached => attached⟩

theorem Kept.trans {a b c : Batch} (first : Kept a b) (second : Kept b c) : Kept a c :=
  ⟨second.id.trans first.id, second.model.trans first.model,
    second.input_count.trans first.input_count, second.max_tokens.trans first.max_tokens,
    second.input_path.trans first.input_path, second.results_path.trans first.results_path,
    second.created_at.trans first.created_at,
    fun id attached => second.ray_job_id id (first.ray_job_id id attached)⟩

/-- The columns that tell how a batch ended. -/
structure Frozen (row row' : Batch) : Prop where
  status : row'.status = row.status
  completed_count : row'.completed_count = row.completed_count
  failed_count : row'.failed_count = row.failed_count
  error : row'.error = row.error
  completed_at : row'.completed_at = row.completed_at

theorem Frozen.refl (row : Batch) : Frozen row row := ⟨rfl, rfl, rfl, rfl, rfl⟩

theorem Frozen.trans {a b c : Batch} (first : Frozen a b) (second : Frozen b c) : Frozen a c :=
  ⟨second.status.trans first.status, second.completed_count.trans first.completed_count,
    second.failed_count.trans first.failed_count, second.error.trans first.error,
    second.completed_at.trans first.completed_at⟩

/-- An update keeps everything but the job id, or that too. -/
theorem Kept.apply {changes : Changes} {row : Batch} (now : Nat)
    (attached : ∀ id, row.ray_job_id = some id → changes.ray_job_id.getD row.ray_job_id = some id) :
    Kept row (changes.apply now row) :=
  ⟨rfl, rfl, rfl, rfl, rfl, rfl, rfl, attached⟩

end KubeRayBatch.Cluster
