/-
# Api.RayClient -- the wrapper around Ray's job submission client

Ray's status words are translated to the batch vocabulary by a table; a word
outside the table is a failure, so every answer is one of the five statuses
(`map_status_literal`).
-/
import KubeRayBatch.Cluster.World

namespace KubeRayBatch.Api

open Cluster

set_option autoImplicit false

def _STATUS_MAP : List (String × String) :=
  [("PENDING", "queued"),
   ("RUNNING", "in_progress"),
   ("SUCCEEDED", "completed"),
   ("FAILED", "failed"),
   ("STOPPED", "cancelled")]

/-- An enum member has a `value`; anything else is converted by `str`. -/
def map_status (rt : Runtime) (ray_status : RayStatus) : String :=
  let raw := match ray_status with
    | .enum value => rt.upper value
    | .plain text => rt.upper text
  (_STATUS_MAP.lookup raw).getD "failed"

/-- `_client is None` is the one state in which the client was never bound. -/
def submit_batch (entrypoint : String) (runtime_env : Option RuntimeEnv) : Proc String := do
  let ready ← ask .client_ready
  if !ready then
    .raise (.runtimeError "ray_client not initialized")
  else
    let submission_id : String ← ask (.submit_job entrypoint (runtime_env.getD []))
    ask (.log .info ("ray_client: submitted " ++ submission_id))
    pure submission_id

def get_status (rt : Runtime) (submission_id : String) : Proc String := do
  let ready ← ask .client_ready
  if !ready then
    .raise (.runtimeError "ray_client not initialized")
  else
    let raw : RayStatus ← ask (.get_job_status submission_id)
    pure (map_status rt raw)

/-- **Every answer is one of the five statuses.** -/
theorem map_status_literal (rt : Runtime) (ray_status : RayStatus) :
    ∃ status : BatchStatus, map_status rt ray_status = status.literal := by
  have values : ∀ raw : String, ∃ status : BatchStatus,
      (_STATUS_MAP.lookup raw).getD "failed" = status.literal := by
    intro raw
    simp only [_STATUS_MAP, List.lookup_cons, List.lookup_nil]
    split
    · exact ⟨.queued, rfl⟩
    split
    · exact ⟨.in_progress, rfl⟩
    split
    · exact ⟨.completed, rfl⟩
    split
    · exact ⟨.failed, rfl⟩
    split
    · exact ⟨.cancelled, rfl⟩
    · exact ⟨.failed, rfl⟩
  exact values _

@[simp] theorem map_status_pending (rt : Runtime) : map_status rt (.enum "PENDING") = "queued" := by
  have upper : rt.upper "PENDING" = "PENDING" := rt.upper_capitals _ (List.all_eq_true.1 rfl)
  simp only [map_status, upper]
  decide

end KubeRayBatch.Api
