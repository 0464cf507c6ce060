/-
# Cluster.SweepMap -- what a sweep does to a row

While nobody else writes, one sweep of the poller leaves in each row a value that is
computed from the row, its markers and Ray's answer alone.  `Outside.swept` is that map.

* `swept_same`: rows that are not listed, and rows without a job, stay;
* `swept_again`: the map is idempotent, as long as commits succeed.
-/
import KubeRayBatch.Cluster.PollOnce

namespace KubeRayBatch.Cluster

open Theory Api Worker

set_option autoImplicit false

/-! ## What a sweep meets -/

/-- The failures that the updates of a sweep meet, by job, file and batch. -/
structure Outside where
  /-- Whether the Ray client is bound. -/
  ready : Bool
  /-- What asking for the status of a known job raises, if Ray does not answer. -/
  status : String → Option PyException
  /-- What Ray raises for a job that it does not know. -/
  unknown : String → PyException
  /-- What reading a marker raises, if the disk fails. -/
  disk : String → FileName → Option PyException
  /-- What loading the row of a batch raises, if it fails. -/
  load : String → Option PyException
  /-- What the commit of the update of a batch raises, if it fails. -/
  commit : String → Option PyException
  /-- What it raises for a count that its column does not store. -/
  unstorable : String → PyException
  status_exception : ∀ id exc, status id = some exc → exc.isinstance .exception = true
  unknown_exception : ∀ id, (unknown id).isinstance .exception = true
  disk_exception : ∀ b f exc, disk b f = some exc → exc.isinstance .exception = true
  load_exception : ∀ b exc, load b = some exc → exc.isinstance .exception = true
  commit_exception : ∀ b exc, commit b = some exc → exc.isinstance .exception = true
  unstorable_exception : ∀ b, (unstorable b).isinstance .exception = true

/-- An operation that fails is refused. -/
def fateOf : Option PyException → Program.Fate PyException
  | none => .done
  | some exc => .refused exc

namespace Outside

variable (o : Outside)

/-- The rows are listed in this order. -/
def policy (order : List Batch) : (op : Op) → World → Event
  | .client_ready, _ => ⟨.done, .flag o.ready⟩
  | .list_active_batches, _ => ⟨.done, .order order⟩
  | .get_job_status id, w =>
      ⟨if (w.job id).isSome then fateOf (o.status id) else .refused (o.unknown id), .go⟩
  | .dir b (.read_text f), _ => ⟨fateOf (o.disk b f), .go⟩
  | .get_batch b, _ => ⟨fateOf (o.load b), .go⟩
  | .commit (.update b changes), _ =>
      ⟨if changes.storable then fateOf (o.commit b) else .refused (o.unstorable b), .go⟩
  | _, _ => ⟨.done, .go⟩

/-! ## The map -/

section Map

variable (rt : Runtime) (w : World)

/-- Ray's answer. -/
def answer (id : String) : Except PyException String :=
  if o.ready then
    match w.job id with
    | none => .error (o.unknown id)
    | some job =>
        match o.status id with
        | some exc => .error exc
        | none => .ok (map_status rt job.status)
  else .error (.runtimeError "ray_client not initialized")

/-- The content of a marker. -/
def marker (b : String) (f : FileName) : Except PyException Json.Value :=
  match (w.dirs b).file f with
  | none => .ok .null
  | some text =>
      match o.disk b f with
      | some exc => .error exc
      | none =>
          match Json.loads text with
          | some data => .ok data
          | none => .error .jsonDecodeError

/-- The values that are assigned to a completed row, given the time. -/
def success (data : Json.Value) (row : Batch) : Except PyException (Nat → Batch) := do
  let completed_count ← (dictGet data "completed" (.int 0)).bind (pyInt rt)
  let failed_count ← (dictGet data "failed" (.int 0)).bind (pyInt rt)
  pure fun completed_at =>
    { row with
      status := "completed"
      completed_count := completed_count
      failed_count := failed_count
      completed_at := some completed_at }

/-- The values that are assigned to a row that failed or was cancelled. -/
def failure (new_status : String) (error : Json.Value) (row : Batch) :
    Except PyException (Nat → Batch) := do
  let error ← errorColumn error
  pure fun completed_at =>
    { row with status := new_status, error := error, completed_at := some completed_at }

def failureText (data : Json.Value) : Except PyException Json.Value :=
  if truthy rt data then dictGet data "error" .null
  else .ok (.str (.ofText "Ray job failed (no marker)".toList))

/-- A completed row without a marker is trusted to be complete. -/
def trusted (row : Batch) : Json.Value → Json.Value
  | .null =>
      .obj [(.ofText "completed".toList, .int row.input_count), (.ofText "failed".toList, .int 0)]
  | data => data

/-- The values that an answer of Ray assigns to a row. -/
def assigns (row : Batch) (new_status : String) : Except PyException (Nat → Batch) :=
  if new_status ∉ TERMINAL_STATUSES then .ok fun _ => { row with status := new_status }
  else if new_status = "completed" then do
    let data ← o.marker w row.id .success
    success rt (trusted row data) row
  else if new_status = "failed" then do
    let data ← o.marker w row.id .failed
    let error ← failureText rt data
    failure "failed" error row
  else failure "cancelled" .null row

/-- The row after a session that assigns these values. -/
def settle (row : Batch) (new : Except PyException (Nat → Batch)) : Batch :=
  match new, o.load row.id, o.commit row.id with
  | .ok new, none, none =>
      if (row.changes (new w.clock)).storable then row.assigned (new w.clock) w.clock else row
  | _, _, _ => row

/-- What `_poll_one` comes to assign. -/
def told (row : Batch) (id : String) : Except PyException (Nat → Batch) :=
  (o.answer rt w id).bind (o.assigns rt w row)

/-- The row after `_poll_one`. -/
def polled (row : Batch) (id : String) : Batch := o.settle w row (o.told rt w row id)

/-- **The map** of a sweep. -/
def swept (row : Batch) : Batch :=
  match row.ray_job_id with
  | some id => if isActive row.status then o.polled rt w row id else row
  | none => row

end Map

end Outside

/-! ## What the map does -/

theorem assigned_self (row : Batch) (now : Nat) : row.assigned row now = row := by
  have unchanged : row.changes row = .none := by
    simp [Batch.changes, Changes.none]
  unfold Batch.assigned
  rw [unchanged]
  simp [Changes.apply, Changes.none]

namespace Outside

variable {o : Outside} {rt : Runtime} {w w' : World} {row : Batch}

theorem settle_id (new : Except PyException (Nat → Batch)) : (o.settle w row new).id = row.id := by
  unfold settle
  split
  · split_ifs
    · exact assigned_id _ _ _
    · rfl
  · rfl

theorem settle_load {exc : PyException} (refused : o.load row.id = some exc)
    (new : Except PyException (Nat → Batch)) : o.settle w row new = row := by
  unfold settle
  rw [refused]
  cases new <;> rfl

theorem settle_commit {exc : PyException} (refused : o.commit row.id = some exc)
    (new : Except PyException (Nat → Batch)) : o.settle w row new = row := by
  unfold settle
  rw [refused]
  cases new <;> cases o.load row.id <;> rfl

theorem settle_ok {new : Nat → Batch} (loaded : o.load row.id = none)
    (commits : o.commit row.id = none) (stored : (row.changes (new w.clock)).storable = true) :
    o.settle w row (.ok new) = row.assigned (new w.clock) w.clock := by
  unfold settle
  rw [loaded, commits]
  exact if_pos stored

theorem settle_unstored {new : Nat → Batch}
    (unstored : (row.changes (new w.clock)).storable = false) :
    o.settle w row (.ok new) = row := by
  have kept : ¬ (row.changes (new w.clock)).storable = true := ne_true_of_eq_false unstored
  unfold settle
  cases o.load row.id with
  | some exc => rfl
  | none =>
      cases o.commit row.id with
      | some exc => rfl
      | none => exact if_neg kept

/-- Assigning what is there already. -/
theorem settle_self : o.settle w row (.ok fun _ => row) = row := by
  cases loaded : o.load row.id with
  | some exc => exact settle_load loaded _
  | none =>
      cases commits : o.commit row.id with
      | some exc => exact settle_commit commits _
      | none => exact (settle_ok loaded commits (by simp)).trans (assigned_self row w.clock)

theorem swept_id (row : Batch) : (o.swept rt w row).id = row.id := by
  unfold swept
  split
  · split
    · exact settle_id _
    · rfl
  · rfl

/-- Rows that are not listed, and rows without a job, stay. -/
theorem swept_same (still : isActive row.status = false ∨ row.ray_job_id = none) :
    o.swept rt w row = row := by
  unfold swept
  rcases still with inactive | jobless
  · split
    · rw [if_neg (by rw [inactive]; decide)]
    · rfl
  · rw [jobless]

/-- A world with the same files and jobs gives the same answers. -/
theorem answer_frame (jobs : w'.jobs = w.jobs) (id : String) :
    o.answer rt w' id = o.answer rt w id := by
  simp only [answer, World.job, jobs]

theorem assigns_frame (dirs : w'.dirs = w.dirs) (row : Batch) (new_status : String) :
    o.assigns rt w' row new_status = o.assigns rt w row new_status := by
  simp only [assigns, marker, dirs]

theorem told_frame (dirs : w'.dirs = w.dirs) (jobs : w'.jobs = w.jobs) (row : Batch) (id : String) :
    o.told rt w' row id = o.told rt w row id := by
  have assigned : o.assigns rt w' row = o.assigns rt w row := funext (assigns_frame dirs row)
  rw [told, told, answer_frame jobs, assigned]

theorem swept_frame (dirs : w'.dirs = w.dirs) (jobs : w'.jobs = w.jobs)
    (clock : w'.clock = w.clock) : o.swept rt w' = o.swept rt w := by
  funext row
  simp only [swept, polled, settle, told_frame dirs jobs, clock]

theorem ok_of_bind {α β : Type} {x : Except PyException α} {f : α → Except PyException β} {b : β}
    (bound : x.bind f = .ok b) : ∃ a, x = .ok a ∧ f a = .ok b := by
  cases x with
  | error exc => cases bound
  | ok a => exact ⟨a, rfl, bound⟩

theorem success_status {data : Json.Value} {new : Nat → Batch}
    (assigned : success rt data row = .ok new) (t : Nat) : (new t).status = "completed" := by
  obtain ⟨completed, -, rest⟩ := ok_of_bind assigned
  obtain ⟨failed, -, rest⟩ := ok_of_bind rest
  cases rest
  rfl

theorem failure_status {new_status : String} {error : Json.Value} {new : Nat → Batch}
    (assigned : failure new_status error row = .ok new) (t : Nat) :
    (new t).status = new_status := by
  obtain ⟨text, -, rest⟩ := ok_of_bind assigned
  cases rest
  rfl

/-- What a terminal answer assigns is a row that is over. -/
theorem assigns_terminal {new_status : String} (terminal : new_status ∈ TERMINAL_STATUSES)
    {new : Nat → Batch} (assigned : o.assigns rt w row new_status = .ok new) (t : Nat) :
    isActive (new t).status = false := by
  unfold assigns at assigned
  rw [if_neg (not_not_intro terminal)] at assigned
  split at assigned
  · obtain ⟨data, -, rest⟩ := ok_of_bind assigned
    rw [success_status rest]
    rfl
  · split at assigned
    · obtain ⟨data, -, rest⟩ := ok_of_bind assigned
      obtain ⟨error, -, rest⟩ := ok_of_bind rest
      rw [failure_status rest]
      rfl
    · rw [failure_status assigned]
      rfl

/-- The counts of a record do not depend on the time. -/
theorem success_storable {data : Json.Value} {new : Nat → Batch}
    (assigned : success rt data row = .ok new) (t t' : Nat) :
    (row.changes (new t)).storable = (row.changes (new t')).storable := by
  obtain ⟨completed, -, rest⟩ := ok_of_bind assigned
  obtain ⟨failed, -, rest⟩ := ok_of_bind rest
  cases rest
  rw [changes_storable, changes_storable]

theorem failure_storable {new_status : String} {error : Json.Value} {new : Nat → Batch}
    (assigned : failure new_status error row = .ok new) (t : Nat) :
    (row.changes (new t)).storable = true := by
  obtain ⟨text, -, rest⟩ := ok_of_bind assigned
  cases rest
  simp

/-- Whether the columns store what an answer assigns does not depend on the time. -/
theorem assigns_storable {new_status : String} {new : Nat → Batch}
    (assigned : o.assigns rt w row new_status = .ok new) (t t' : Nat) :
    (row.changes (new t)).storable = (row.changes (new t')).storable := by
  unfold assigns at assigned
  split at assigned
  · cases assigned
    simp
  · split at assigned
    · obtain ⟨data, -, rest⟩ := ok_of_bind assigned
      exact success_storable rest t t'
    · split at assigned
      · obtain ⟨data, -, rest⟩ := ok_of_bind assigned
        obtain ⟨error, -, rest⟩ := ok_of_bind rest
        exact (failure_storable rest t).trans (failure_storable rest t').symm
      · exact (failure_storable assigned t).trans (failure_storable assigned t').symm

/-- An answer that is not terminal assigns the status only. -/
theorem assigns_running {new_status : String} (running : new_status ∉ TERMINAL_STATUSES)
    (row : Batch) :
    o.assigns rt w row new_status = .ok fun _ => { row with status := new_status } := by
  unfold assigns
  rw [if_pos running]

/-- **The map is idempotent**, as long as commits succeed. -/
theorem swept_again (commits : ∀ b, o.commit b = none) (dirs : w'.dirs = w.dirs)
    (jobs : w'.jobs = w.jobs) (row : Batch) :
    o.swept rt w' (o.swept rt w row) = o.swept rt w row := by
  by_cases still : isActive row.status = false ∨ row.ray_job_id = none
  · rw [swept_same still, swept_same still]
  rw [not_or, Bool.not_eq_false] at still
  obtain ⟨active, hasJob⟩ := still
  obtain ⟨id, isId⟩ := Option.ne_none_iff_exists'.1 hasJob
  have once : ∀ v, o.swept rt v row = o.polled rt v row id := by
    intro v
    unfold swept
    rw [isId]
    exact if_pos active
  -- what was not settled the first time is not settled the second time
  have stuck (kept : ∀ v : World, o.settle v row (o.told rt w row id) = row) :
      o.swept rt w' (o.swept rt w row) = o.swept rt w row := by
    have first : o.swept rt w row = row := (once w).trans (kept w)
    rw [first, once w', polled, told_frame dirs jobs]
    exact kept w'
  cases loaded : o.load row.id with
  | some exc => exact stuck fun _ => settle_load loaded _
  | none =>
      cases isTold : o.told rt w row id with
      | error exc =>
          rw [isTold] at stuck
          exact stuck fun _ => rfl
      | ok new =>
          obtain ⟨new_status, answered, assigned⟩ := ok_of_bind isTold
          have sameTime := assigns_storable assigned
          by_cases stored : (row.changes (new w.clock)).storable = true
          swap
          · rw [Bool.not_eq_true] at stored
            rw [isTold] at stuck
            exact stuck fun v => settle_unstored ((sameTime v.clock w.clock).trans stored)
          have becomes : o.swept rt w row = row.assigned (new w.clock) w.clock := by
            rw [once, polled, isTold]
            exact settle_ok loaded (commits _) stored
          rw [becomes]
          by_cases terminal : new_status ∈ TERMINAL_STATUSES
          · refine swept_same (.inl ?_)
            rw [assigned_status]
            exact assigns_terminal terminal assigned w.clock
          · rw [assigns_running terminal] at assigned
            cases assigned
            show o.swept rt w' (row.assigned { row with status := new_status } w.clock) =
              row.assigned { row with status := new_status } w.clock
            generalize becomes' : row.assigned { row with status := new_status } w.clock = row'
            have status : row'.status = new_status := by
              rw [← becomes', assigned_status]
            have job : row'.ray_job_id = some id := by
              rw [← becomes', assigned_ray_job_id, isId]
            unfold swept
            rw [job]
            by_cases active' : isActive row'.status = true
            · -- the status is there already
              show (if isActive row'.status = true then o.polled rt w' row' id else row') = row'
              rw [if_pos active', polled, told_frame dirs jobs, told, answered, Except.bind,
                assigns_running terminal, ← status]
              exact settle_self
            · exact if_neg active'

end Outside

end KubeRayBatch.Cluster
