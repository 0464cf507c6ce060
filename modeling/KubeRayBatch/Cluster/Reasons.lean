/-
# Cluster.Reasons -- why a batch failed

The error of a failed batch comes from one of three places: the handler that could not
submit the job, the `_FAILED` marker of the worker, or the poller itself when there is no
marker.  The text of an exception crosses the marker unchanged, and `str(exc)` may be
empty; the poller replaces a missing marker, not a missing text.

* `failed_explained`: with one poller, every failed row says why, along every run in which
  `main` handles no exception without a text;
* `failed_silent`: a job that fails with a bare `AssertionError`.
-/
import KubeRayBatch.Cluster.Presence

namespace KubeRayBatch.Cluster

open Theory Api Worker

set_option autoImplicit false

/-- **key theorem.** A failed row has an error, and its text is not empty. -/
theorem failed_explained {D : Deployment} {A : Assumed} {s : State} (alone : A.alone = true)
    (spoken : A.spoken = true) (reachable : Reachable D A s) {row : Batch}
    (mem : row ∈ s.world.table) (failed : row.status = "failed") :
    ∃ error, row.error = some error ∧ error ≠ "" := by
  have safe := reachable_inv reachable
  have sound := (safe.world.sound row.id).row row (safe.world.view_of_mem mem)
  obtain ⟨error, isError, reason⟩ := sound.explained alone failed
  exact ⟨error, isError, reason spoken⟩

/-- `ray.init` fails with an assertion. -/
def failing (message : String) : Op → World → Event
  | .ray_init, _ => ⟨.refused (.simple "AssertionError" message), .go⟩
  | .format_exc, _ => ⟨.done, .text (.ofText "Traceback".toList)⟩
  | op, w => sunny op w

/-- Until the poller has read the marker of the failed job. -/
def failure : List Scene :=
  [.one (.post hiRequest), .runs 0 100, .one (.start "raysubmit_1"), .runs 1 1000, .one (.exit 1),
    .one (.report "raysubmit_1" (.enum "FAILED")), .one .poll, .runs 2 100]

/-- The assertion has a text, and the row has it too. -/
theorem failed_explained_assertion : ∃ s, Reachable sampleDeployment .all s ∧
    ∃ row ∈ s.world.table, row.status = "failed" ∧ ∃ error, row.error = some error ∧ error ≠ "" := by
  have value : ((play sampleDeployment .all (failing "no cluster")
      failure .init).map fun s => s.world.table.map (·.status)) = some ["failed"] := by decide +kernel
  obtain ⟨s, played, status⟩ := Option.map_eq_some_iff.1 value
  obtain ⟨row, isRow, failed⟩ := List.map_eq_singleton_iff.1 status
  have mem : row ∈ s.world.table := by rw [isRow]; exact List.mem_singleton_self row
  have reachable := reachable_play .init played
  exact ⟨s, reachable, row, mem, failed, failed_explained rfl rfl reachable mem failed⟩

/-- A bare assertion leaves a failed row with an empty error. -/
theorem failed_silent :
    ¬ ∀ (D : Deployment) (s : State) (row : Batch),
      Reachable D ⟨true, true, true, true, false⟩ s → row ∈ s.world.table →
      row.status = "failed" → ∃ error, row.error = some error ∧ error ≠ "" := by
  intro explained
  have value : ((play sampleDeployment ⟨true, true, true, true, false⟩ (failing "") failure
      .init).map fun s => s.world.table.map fun row => (row.status, row.error)) =
        some [("failed", some "")] := by decide +kernel
  obtain ⟨s, played, shown⟩ := Option.map_eq_some_iff.1 value
  obtain ⟨row, isRow, ends⟩ := List.map_eq_singleton_iff.1 shown
  obtain ⟨failed, isEmpty⟩ := Prod.mk.inj ends
  have mem : row ∈ s.world.table := by rw [isRow]; exact List.mem_singleton_self row
  obtain ⟨error, isError, text⟩ :=
    explained sampleDeployment s row (reachable_play .init played) mem failed
  rw [isEmpty] at isError
  exact text (Option.some.inj isError).symm

end KubeRayBatch.Cluster
