/-
# Cluster.View -- the shared world, seen batch by batch

Everything the parties share about one batch is a `View`: who was issued its id, its
row, its directory and its Ray job.  An operation of any process touches the view of
at most one batch (`Touches`), which is why the invariant of the cluster can be stated
for one view at a time.

A job belongs to the batch whose id is the second word of its arguments, so the job of
a batch is found from the submitted entrypoints alone (`batchWord_entrypoint`).
-/
import KubeRayBatch.Cluster.Lifecycle
import KubeRayBatch.Api.Batches
import KubeRayBatch.Worker.Arguments
import Mathlib.Data.List.Nodup

namespace KubeRayBatch.Cluster

open Theory Api Worker

set_option autoImplicit false

/-! ## Whose batch it is -/

theorem newBatchId_injective {u u' : Ulid} (same : newBatchId u = newBatchId u') : u = u' := by
  have chars := congrArg String.toList same
  simp only [newBatchId, String.toList_append, List.append_cancel_left_eq, String.toList_inj] at chars
  obtain ⟨text, length, crockford⟩ := u
  cases chars
  rfl

/-- The batch id among the arguments of a job. -/
def batchWord (entrypoint : String) : Option Text := (jobArgv entrypoint).bind fun words => words[1]?

theorem batchWord_entrypoint (u : Ulid) (request : CreateBatchRequest) :
    batchWord (entrypointOf (newBatchId u) request.model request.max_tokens) =
      some (newBatchId u).toList := by
  rw [batchWord, argv_entrypoint]
  rfl

/-- The job submitted for a batch. -/
def jobOf (jobs : List Job) (b : String) : Option Job :=
  jobs.find? fun job => batchWord job.entrypoint == some b.toList

/-- The process that was issued the id of a batch. -/
def ownerOf (issued : List (Ulid × Nat)) (b : String) : Option Nat :=
  (issued.find? fun draw => newBatchId draw.1 == b).map (·.2)

structure View where
  owner : Option Nat
  row : Option Batch
  dir : Dir
  job : Option Job

def view (w : World) (b : String) : View :=
  ⟨ownerOf w.issued b, w.table.get b, w.dirs b, jobOf w.jobs b⟩

section View

variable (w : World) (b : String)

@[simp] theorem view_row : (view w b).row = w.table.get b := rfl
@[simp] theorem view_job : (view w b).job = jobOf w.jobs b := rfl

end View

/-- A step of the world that concerns one batch. -/
structure Touches (b : String) (w w' : World) : Prop where
  clock : w'.clock = w.clock
  others : ∀ b' ≠ b, view w' b' = view w b'

theorem Quiet.view {w w' : World} (quiet : Quiet w w') (b : String) : view w' b = view w b := by
  unfold Cluster.view
  rw [quiet.issued, quiet.table, quiet.dirs, quiet.jobs]

/-! ## What the operations do to a view -/

section Effects

variable {rd : RayData} {pid : Nat} {c : Choice} {w w' : World}

theorem view_setDir (w : World) (b : String) (d : Dir) :
    view (w.setDir b d) b = { view w b with dir := d } := by
  simp [view, World.setDir]

theorem touches_setDir (w : World) (b : String) (d : Dir) : Touches b w (w.setDir b d) where
  clock := rfl
  others := by
    intro b' other
    simp [view, World.setDir, other]

theorem ownerOf_append (issued : List (Ulid × Nat)) (u : Ulid) (pid : Nat) (b : String) :
    ownerOf (issued ++ [(u, pid)]) b =
      (ownerOf issued b).or (if newBatchId u = b then some pid else none) := by
  unfold ownerOf
  rw [List.find?_append]
  cases List.find? (fun draw : Ulid × Nat => newBatchId draw.1 == b) issued with
  | some draw => rfl
  | none =>
      by_cases same : newBatchId u = b <;> simp [same]

/-- An id that is drawn had no owner. -/
theorem ownerOf_fresh {issued : List (Ulid × Nat)} {u : Ulid} (fresh : u ∉ issued.map (·.1)) :
    ownerOf issued (newBatchId u) = none := by
  unfold ownerOf
  rw [Option.map_eq_none_iff, List.find?_eq_none]
  rintro ⟨v, pid⟩ mem same
  have drawn : v = u := newBatchId_injective (by simpa using same)
  exact fresh (List.mem_map.2 ⟨(v, pid), mem, drawn⟩)

variable (rd pid) in
theorem view_ulid {u : Ulid} (executed : exec rd pid .ulid c w = some (u, w')) :
    (view w (newBatchId u)).owner = none ∧
      view w' (newBatchId u) = { view w (newBatchId u) with owner := some pid } ∧
      Touches (newBatchId u) w w' := by
  obtain ⟨fresh, rfl⟩ := ulid_exec rd pid executed
  have unowned := ownerOf_fresh fresh
  refine ⟨unowned, ?_, rfl, fun b' other => ?_⟩
  · simp [view, ownerOf_append, unowned]
  · simp [view, ownerOf_append, Ne.symm other]

theorem view_commit {pending : Pending} {a : (Op.commit pending).Res}
    (executed : exec rd pid (.commit pending) c w = some (a, w')) (b : String) :
    view w' b = { view w b with row := w.table.after w.clock b pending } := by
  obtain ⟨table, committed, rfl⟩ := commit_exec rd pid pending executed
  simp only [view, Table.get_commit committed b]

theorem touches_insert {new : NewBatch} {a : (Op.commit (.insert new)).Res}
    (executed : exec rd pid (.commit (.insert new)) c w = some (a, w')) : Touches new.id w w' where
  clock := by
    obtain ⟨table, -, rfl⟩ := commit_exec rd pid _ executed
    rfl
  others := by
    intro b' other
    rw [view_commit executed, Table.after, if_neg other]
    rfl

theorem touches_update {b : String} {changes : Changes} {a : (Op.commit (.update b changes)).Res}
    (executed : exec rd pid (.commit (.update b changes)) c w = some (a, w')) : Touches b w w' where
  clock := by
    obtain ⟨table, -, rfl⟩ := commit_exec rd pid _ executed
    rfl
  others := by
    intro b' other
    rw [view_commit executed, Table.after, if_neg other]
    rfl

theorem quiet_clean {a : (Op.commit .clean).Res}
    (executed : exec rd pid (.commit .clean) c w = some (a, w')) : Quiet w w' := by
  obtain ⟨table, committed, rfl⟩ := commit_exec rd pid _ executed
  cases committed
  exact ⟨rfl, rfl, rfl, rfl, rfl⟩

theorem jobOf_append (jobs : List Job) (job : Job) (b : String) :
    jobOf (jobs ++ [job]) b =
      (jobOf jobs b).or (if batchWord job.entrypoint = some b.toList then some job else none) := by
  unfold jobOf
  rw [List.find?_append, List.find?_singleton]
  simp

/-- The job that a submission adds. -/
def submittedJob (id entrypoint : String) (env : RuntimeEnv) : Job :=
  ⟨id, entrypoint, env, .enum "PENDING", none, none⟩

theorem view_submit {b entrypoint : String} {env : RuntimeEnv} {id : (Op.submit_job entrypoint env).Res}
    (mine : batchWord entrypoint = some b.toList) (unsubmitted : (view w b).job = none)
    (executed : exec rd pid (.submit_job entrypoint env) c w = some (id, w')) :
    view w' b = { view w b with job := some (submittedJob id entrypoint env) } ∧ Touches b w w' := by
  obtain ⟨-, -, rfl⟩ := submit_exec rd pid entrypoint env executed
  refine ⟨?_, rfl, fun b' other => ?_⟩
  · rw [view_job] at unsubmitted
    simp [view, jobOf_append, unsubmitted, mine, submittedJob]
  · have different : b.toList ≠ b'.toList := fun same => other (String.toList_inj.1 same).symm
    simp [view, jobOf_append, mine, different]

end Effects

/-! ## The jobs Ray knows -/

/-- A change of the job with one id. -/
def World.updateJob (w : World) (id : String) (f : Job → Job) : World :=
  { w with jobs := w.jobs.map fun job => if job.submission_id = id then f job else job }

theorem jobOf_mem {jobs : List Job} {b : String} {job : Job} (found : jobOf jobs b = some job) :
    job ∈ jobs :=
  List.mem_of_find?_eq_some found

theorem jobOf_word {jobs : List Job} {b : String} {job : Job} (found : jobOf jobs b = some job) :
    batchWord job.entrypoint = some b.toList := by
  simpa using List.find?_some found

/-- Submission ids are distinct. -/
def JobsDistinct (w : World) : Prop := (w.jobs.map (·.submission_id)).Nodup

theorem job_of_mem {w : World} (distinct : JobsDistinct w) {job : Job} (mem : job ∈ w.jobs) :
    w.job job.submission_id = some job := by
  cases found : w.job job.submission_id with
  | none =>
      rw [World.job, List.find?_eq_none] at found
      exact absurd (by simp) (found job mem)
  | some other =>
      have listed : other ∈ w.jobs := List.mem_of_find?_eq_some found
      have same : other.submission_id = job.submission_id := by simpa using List.find?_some found
      rw [List.inj_on_of_nodup_map distinct listed mem same]

theorem job_mem {w : World} {id : String} {job : Job} (found : w.job id = some job) :
    job ∈ w.jobs ∧ job.submission_id = id :=
  ⟨List.mem_of_find?_eq_some found, by simpa using List.find?_some found⟩

theorem jobOf_updateJob (w : World) (id : String) {f : Job → Job}
    (keeps : ∀ job, (f job).entrypoint = job.entrypoint) (b : String) :
    jobOf (w.updateJob id f).jobs b =
      (jobOf w.jobs b).map fun job => if job.submission_id = id then f job else job := by
  unfold jobOf World.updateJob
  rw [List.find?_map]
  congr 1
  congr 1
  funext job
  simp only [Function.comp_apply]
  split <;> simp [keeps]

/-- Updating the job of a batch touches no other. -/
theorem view_updateJob {w : World} (distinct : JobsDistinct w) {b : String} {job : Job}
    (found : (view w b).job = some job) {f : Job → Job}
    (keeps : ∀ job, (f job).entrypoint = job.entrypoint) :
    view (w.updateJob job.submission_id f) b = { view w b with job := some (f job) } ∧
      Touches b w (w.updateJob job.submission_id f) := by
  rw [view_job] at found
  refine ⟨?_, rfl, fun b' other => ?_⟩
  · have here := jobOf_updateJob w job.submission_id keeps b
    rw [found, Option.map_some, if_pos rfl] at here
    unfold view
    rw [here]
    rfl
  · have there := jobOf_updateJob w job.submission_id keeps b'
    have same : jobOf (w.updateJob job.submission_id f).jobs b' = jobOf w.jobs b' := by
      rw [there]
      cases elsewhere : jobOf w.jobs b' with
      | none => rfl
      | some job' =>
          have different : job'.submission_id ≠ job.submission_id := by
            intro same
            have equal := job_of_mem distinct (jobOf_mem elsewhere)
            rw [same, job_of_mem distinct (jobOf_mem found)] at equal
            cases equal
            have words := (jobOf_word elsewhere).symm.trans (jobOf_word found)
            exact other (String.toList_inj.1 (Option.some.inj words))
          simp [different]
    unfold view
    rw [same]
    rfl

end KubeRayBatch.Cluster
