/-
# Cluster.Presence -- what a process looks for is there

The handler writes the input file, then commits the row, then submits the job, and
nobody takes any of them away.  So a job finds its input file, and whoever loads a row
by the id of a batch finds the row, however the processes are interleaved and wherever
they fail or are killed.

* `row_has_inputs`, `job_has_row`: a row has its whole input file, and a job its row;
* `asked_for_present`: what a running process asks for, and treats as impossible to be
  missing, is not missing;
* `no_job_without_inputs`: all of it, in every reachable state.
-/
import KubeRayBatch.Cluster.Machine
import KubeRayBatch.Api.Submission
import KubeRayBatch.Worker.Answers
import KubeRayBatch.Worker.Rerun

namespace KubeRayBatch.Cluster

open Theory Api Worker

set_option autoImplicit false

variable {D : Deployment} {A : Assumed} {s : State}

/-! ## Rows and jobs -/

/-- The input file of the request that the row stands for, with a line for each of the
prompts that the row counts. -/
def InputComplete (row : Batch) (dir : Dir) : Prop :=
  ∃ (request : CreateBatchRequest) (content : Text), dir.file .input = some content ∧
    content = inputText (request.input.map (·.model_dump)) ∧
    (TextLines.lines content).length = row.input_count

/-- A row of the table is the row of its batch. -/
theorem Inv.view_of_mem {w : World} (inv : Inv D A w) {row : Batch} (mem : row ∈ w.table) :
    (view w row.id).row = some row :=
  inv.keyed.get_of_mem mem

theorem row_has_inputs (safe : SysInv D A s) {row : Batch} (mem : row ∈ s.world.table) :
    InputComplete row (s.world.dirs row.id) := by
  have found := safe.world.view_of_mem mem
  obtain ⟨u, request, posted⟩ := ((safe.world.sound row.id).row row found).origin
  refine ⟨request, _, posted.input, rfl, ?_⟩
  rw [length_lines_inputText, posted.input_count]

theorem job_has_row (safe : SysInv D A s) {job : Job} (mem : job ∈ s.world.jobs) :
    ∃ row ∈ s.world.table, job.entrypoint = entrypointOf row.id row.model row.max_tokens := by
  obtain ⟨b, mine⟩ := safe.world.owned job mem
  have sound := safe.world.sound b
  obtain ⟨row, found⟩ := sound.job_row mine
  obtain rfl : row.id = b := Table.get_id found
  exact ⟨row, Table.get_mem found, (sound.job row job found mine).entrypoint⟩

/-! ## Processes -/

/-- What a process asks for is what it expects to find. -/
theorem asked_for_present (safe : SysInv D A s) {pid : Nat} {p : Process} {op : Op}
    {next : Except PyException op.Res → Proc p.role.Result} (found : s.procs[pid]? = some p)
    (alive : p.alive = true) (asks : p.program = .call op next) :
    Expected A (p.role.actor pid) op s.world := by
  have kept := safe.follows pid p found alive
  unfold Process.Kept at kept
  rw [asks] at kept
  exact kept.asks safe.world

/-- The answers that a process takes for granted about rows and input files. -/
def Present (role : Role) (op : Op) (w : World) : Prop :=
  match role, op with
  | .handler _, .get_batch b => ∃ row, w.table.get b = some row
  | .poller, .get_batch b => ∃ row, w.table.get b = some row
  | .worker _, .dir b (.exists .input) => ∃ content, (w.dirs b).file .input = some content
  | _, _ => True

theorem present_of_expected {role : Role} {pid : Nat} {op : Op} {w : World}
    (expected : Expected A (role.actor pid) op w) : Present role op w := by
  unfold Present
  split
  · exact Option.isSome_iff_exists.1 expected
  · exact Option.isSome_iff_exists.1 expected
  · exact Option.isSome_iff_exists.1 expected
  · trivial

/-- **key theorem.** In every reachable state a row has its whole input file and a job
its row, and no running process is about to look for a row or an input file that is not
there. -/
theorem no_job_without_inputs (reachable : Reachable D A s) :
    (∀ row ∈ s.world.table, InputComplete row (s.world.dirs row.id)) ∧
      (∀ job ∈ s.world.jobs, ∃ row ∈ s.world.table,
        job.entrypoint = entrypointOf row.id row.model row.max_tokens) ∧
      ∀ (pid : Nat) (p : Process) (op : Op) (next : Except PyException op.Res → Proc p.role.Result),
        s.procs[pid]? = some p → p.alive = true → p.program = .call op next →
          Present p.role op s.world := by
  have safe := reachable_inv reachable
  refine ⟨fun row mem => row_has_inputs safe mem, fun job mem => job_has_row safe mem, ?_⟩
  intro pid p op next found alive asks
  exact present_of_expected (asked_for_present safe found alive asks)

/-! ### A run in which everything succeeds -/

def sampleDeployment : Deployment := ⟨.ascii, sampleSettings, sampleEnv, rayAnswering pickyActor⟩

/-- The id of a second batch. -/
def laterUlid : Ulid := ⟨"01BX5ZZKBKACTAV9WEVGEMMVRZ", by decide,
  fun c mem => List.contains_iff_mem.1 (List.all_eq_true.1 (by decide) c mem)⟩

def sunny : Op → World → Event
  | .ulid, w => ⟨.done, .ulid (if w.table.isEmpty then sampleUlid else laterUlid)⟩
  | .client_ready, _ => ⟨.done, .flag true⟩
  | .submit_job _ _, w =>
      ⟨.done, .submission (if w.jobs.isEmpty then "raysubmit_1" else "raysubmit_2")⟩
  | .list_active_batches, w => ⟨.done, .order w.table.active⟩
  | .dir _ (.execute plan), _ =>
      -- the last row comes out first
      ⟨.done, .dataset "b.json"
        (dumpsWriter.file (plan.rows.reverse.map (rowResult pickyActor plan.max_tokens)))⟩
  | op, w => smooth "b.json" [] op w

/-- Three prompts, of which the second one is not answered. -/
def mixedRequest : CreateBatchRequest :=
  { hiRequest with
    input := [hi, ⟨"?", by decide, by decide⟩, hi]
    input_min_length := by decide
    input_max_length := by decide }

/-- A request is posted, and Ray starts its job. -/
def openingOf (request : CreateBatchRequest) : List Scene :=
  [.one (.post request), .runs 0 300, .one (.start "raysubmit_1"), .runs 1 1]

def opening : List Scene := openingOf hiRequest

theorem no_job_without_inputs_started : ∃ s, Reachable sampleDeployment .all s ∧
    s.world.table.length = 1 ∧ s.world.jobs.length = 1 ∧
    (∀ row ∈ s.world.table, InputComplete row (s.world.dirs row.id)) := by
  have value : ((play sampleDeployment .all sunny opening .init).map fun s =>
      (s.world.table.length, s.world.jobs.length)) = some (1, 1) := by decide +kernel
  obtain ⟨s, played, sizes⟩ := Option.map_eq_some_iff.1 value
  have reachable := reachable_play .init played
  obtain ⟨rows, jobs⟩ := Prod.mk.inj sizes
  exact ⟨s, reachable, rows, jobs, (no_job_without_inputs reachable).1⟩

end KubeRayBatch.Cluster
