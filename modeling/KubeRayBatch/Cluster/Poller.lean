/-
# Cluster.Poller -- a sweep among everybody else

The poller reads a snapshot of the active rows, asks Ray about each of them, reads a
marker, and only then loads the row again and updates it, so at every point somebody
else may have moved on.  `Polling` is what stays true of a row whose job is known, and
`Lasting` says which further facts do: the answer of Ray is never behind the row nor
ahead of the job (`Answered`), what was read from a marker of a job that exited stays
what it left, and a row that was loaded is still the row that is updated when there is
no other poller (`Loaded`).
-/
import KubeRayBatch.Cluster.Sharing

namespace KubeRayBatch.Cluster

open Theory Api Worker

set_option autoImplicit false

variable {D : Deployment} {A : Assumed} {pid : Nat} {b job_id : String} {n : Nat}

/-! ## What nobody else changes -/

/-- The row has this job, and is active when there is no other poller; `φ` may speak of
the row, the directory and the job. -/
def Polling (A : Assumed) (job_id : String) (n : Nat) (φ : Batch → Dir → Option Job → Prop)
    (v : View) : Prop :=
  ∃ row, v.row = some row ∧ row.ray_job_id = some job_id ∧ row.input_count = n ∧
    (A.alone = true → isActive row.status = true) ∧ φ row v.dir v.job

/-- How Ray moves a job. -/
structure JobMoves (D : Deployment) (A : Assumed) (job job' : Job) : Prop where
  forward : A.forward = true → Behind (reported D job) (reported D job')
  exited : job.exit_code = some 0 → job'.exit_code = some 0

/-- Facts about an attached row that last while others step. -/
structure Lasting (D : Deployment) (A : Assumed) (b : String) (φ : Batch → Dir → Option Job → Prop) :
    Prop where
  jobs : ∀ row dir job job', JobMoves D A job job' → φ row dir (some job) → φ row dir (some job')
  work : ∀ row dir dir' job, job.exit_code = none → φ row dir (some job) → φ row dir' (some job)
  poll : ∀ row row' dir job, A.alone = false → Polled D A b dir job row row' → φ row dir job →
    φ row' dir job

theorem stable_polling {φ : Batch → Dir → Option Job → Prop} (lasting : Lasting D A b φ) :
    StableView D A (.poller pid) b (Polling A job_id n φ) := by
  rintro a now v v' other sound changed ⟨row, found, isId, count, active, holds⟩
  cases changed with
  | issue a unowned => exact ⟨row, found, isId, count, active, holds⟩
  | input a dir owned unborn => rw [unborn] at found; cases found
  | insert a u request input_path owned unborn => rw [unborn] at found; cases found
  | submit a row' id env owned found' unattached | attach a row' job updated owned found' unattached
  | mark a row' error ended updated owned found' unattached =>
      rw [found] at found'
      cases found'
      rw [unattached] at isId
      cases isId
  | start a job submitted idle =>
      rw [submitted] at holds
      exact ⟨row, found, isId, count, active,
        lasting.jobs row _ job _ ⟨fun _ => Behind.refl _, id⟩ holds⟩
  | work a job dir submitted runs running stepped =>
      refine ⟨row, found, isId, count, active, ?_⟩
      show φ row dir v.job
      rw [submitted] at holds ⊢
      exact lasting.work row _ dir job running holds
  | exit a job code submitted runs running =>
      rw [submitted] at holds
      have moves : JobMoves D A job { job with exit_code := some code } :=
        ⟨fun _ => Behind.refl _, fun exited => by rw [running] at exited; cases exited⟩
      exact ⟨row, found, isId, count, active, lasting.jobs row _ job _ moves holds⟩
  | report job status submitted forward =>
      rw [submitted] at holds
      exact ⟨row, found, isId, count, active, lasting.jobs row _ job _ ⟨forward, id⟩ holds⟩
  | poll a row' row'' found' polled =>
      rw [found] at found'
      cases found'
      have crowded : A.alone = false := by
        cases alone : A.alone with
        | false => rfl
        | true => cases other.2 alone rfl
      exact ⟨row'', rfl, polled.kept.ray_job_id _ isId, polled.kept.input_count.trans count,
        fun alone => absurd alone (by simp [crowded]),
        lasting.poll row row'' _ _ crowded polled holds⟩

theorem Polling.mono {φ ψ : Batch → Dir → Option Job → Prop} {v : View}
    (polling : Polling A job_id n φ v) (weaker : ∀ row dir job, φ row dir job → ψ row dir job) :
    Polling A job_id n ψ v :=
  let ⟨row, found, isId, count, active, holds⟩ := polling
  ⟨row, found, isId, count, active, weaker row _ _ holds⟩

theorem Polling.present {φ : Batch → Dir → Option Job → Prop} {v : View}
    (polling : Polling A job_id n φ v) : v.row.isSome = true :=
  let ⟨row, found, _⟩ := polling
  Option.isSome_iff_exists.2 ⟨row, found⟩

namespace Lasting

variable {φ ψ : Batch → Dir → Option Job → Prop}

theorem const (given : Prop) : Lasting D A b fun _ _ _ => given :=
  ⟨fun _ _ _ _ _ h => h, fun _ _ _ _ _ h => h, fun _ _ _ _ _ _ h => h⟩

theorem and (first : Lasting D A b φ) (second : Lasting D A b ψ) :
    Lasting D A b fun row dir job => φ row dir job ∧ ψ row dir job :=
  ⟨fun row dir job job' moves holds =>
      ⟨first.jobs row dir job job' moves holds.1, second.jobs row dir job job' moves holds.2⟩,
    fun row dir dir' job running holds =>
      ⟨first.work row dir dir' job running holds.1, second.work row dir dir' job running holds.2⟩,
    fun row row' dir job crowded polled holds =>
      ⟨first.poll row row' dir job crowded polled holds.1,
        second.poll row row' dir job crowded polled holds.2⟩⟩

theorem exists_ {ι : Type} {φ : ι → Batch → Dir → Option Job → Prop}
    (each : ∀ i, Lasting D A b (φ i)) : Lasting D A b fun row dir job => ∃ i, φ i row dir job :=
  ⟨fun row dir job job' moves ⟨i, holds⟩ => ⟨i, (each i).jobs row dir job job' moves holds⟩,
    fun row dir dir' job running ⟨i, holds⟩ => ⟨i, (each i).work row dir dir' job running holds⟩,
    fun row row' dir job crowded polled ⟨i, holds⟩ =>
      ⟨i, (each i).poll row row' dir job crowded polled holds⟩⟩

theorem imp (given : Prop) (each : Lasting D A b φ) :
    Lasting D A b fun row dir job => given → φ row dir job :=
  ⟨fun row dir job job' moves holds h => each.jobs row dir job job' moves (holds h),
    fun row dir dir' job running holds h => each.work row dir dir' job running (holds h),
    fun row row' dir job crowded polled holds h =>
      each.poll row row' dir job crowded polled (holds h)⟩

/-- What a job that exited left does not change any more. -/
theorem final (counts : Counts) : Lasting D A b fun row dir job => Final D b dir job row counts where
  jobs := by
    rintro row dir job job' moves ⟨⟨j, same, exited⟩, output⟩
    cases same
    exact ⟨⟨job', rfl, moves.exited exited⟩, output⟩
  work := fun _ _ _ _ running final => absurd final (Final.not_running running)
  poll := fun _ _ _ _ _ polled final => final.row polled.kept.model polled.kept.max_tokens

end Lasting

/-- The answer of Ray: not behind the row, not ahead of the job. -/
structure Answered (D : Deployment) (A : Assumed) (answer : String) (row : Batch) (job : Option Job) :
    Prop where
  behind : A.alone = true → A.forward = true → Behind row.status answer
  ahead : A.forward = true → ∀ j, job = some j → Behind answer (reported D j)
  exited : A.honest = true → answer = "completed" → ∃ j, job = some j ∧ j.exit_code = some 0

theorem lasting_answered (answer : String) :
    Lasting D A b fun row _ job => Answered D A answer row job where
  jobs := by
    intro row dir job job' moves answered
    refine ⟨answered.behind, fun forward j same => ?_, fun honest completed => ?_⟩
    · cases same
      exact (answered.ahead forward job rfl).trans (moves.forward forward)
    · obtain ⟨j, same, exited⟩ := answered.exited honest completed
      cases same
      exact ⟨job', rfl, moves.exited exited⟩
  work := fun _ _ _ _ _ answered => answered
  poll := fun _ _ _ _ crowded _ answered =>
    ⟨fun alone => absurd alone (by simp [crowded]), answered.ahead, answered.exited⟩

/-- A time that is not before the row. -/
theorem lasting_dated (t : Nat) :
    Lasting D A b fun row _ _ => A.clock = true → row.created_at ≤ t :=
  ⟨fun _ _ _ _ _ holds => holds, fun _ _ _ _ _ holds => holds,
    fun _ _ _ _ _ polled holds clock => polled.kept.created_at ▸ holds clock⟩

/-- A row that was loaded, and the row as it is now. -/
structure Loaded (A : Assumed) (loaded row : Batch) : Prop where
  same : A.alone = true → row = loaded
  completed_count : A.honest = true → loaded.completed_count ≠ 0 →
    row.completed_count = loaded.completed_count
  failed_count : A.honest = true → loaded.failed_count ≠ 0 → row.failed_count = loaded.failed_count

theorem Loaded.now (row : Batch) : Loaded A row row := ⟨fun _ => rfl, fun _ _ => rfl, fun _ _ => rfl⟩

theorem lasting_loaded (loaded : Batch) : Lasting D A b fun row _ _ => Loaded A loaded row where
  jobs := fun _ _ _ _ _ holds => holds
  work := fun _ _ _ _ _ holds => holds
  poll := by
    intro row row' dir job crowded polled holds
    refine ⟨fun alone => absurd alone (by simp [crowded]), fun honest nonzero => ?_,
      fun honest nonzero => ?_⟩
    · have same := holds.completed_count honest nonzero
      rw [polled.completed_count honest (same ▸ nonzero), same]
    · have same := holds.failed_count honest nonzero
      rw [polled.failed_count honest (same ▸ nonzero), same]

/-! ## What an update turns the row into -/

/-- A column after an update: the assigned value, or, where that was loaded already,
whatever the row holds. -/
theorem column_cases {α : Type} [DecidableEq α] (loaded assigned current : α) :
    (changed loaded assigned).getD current = assigned ∨
      assigned = loaded ∧ (changed loaded assigned).getD current = current := by
  by_cases same : assigned = loaded
  · right
    simp [changed, same]
  · left
    simp [changed, same]

section Polled

variable {now time : Nat} {dir : Dir} {job : Option Job} {row loaded new : Batch} {answer : String}

/-- An update of a loaded row with an answer of Ray. -/
theorem polled_update (sound : RowSound D A b time dir job row) (isId : row.ray_job_id = some job_id)
    (active : A.alone = true → isActive row.status = true) (before : Loaded A loaded row)
    (answered : Answered D A new.status row job) (sameJob : new.ray_job_id = loaded.ray_job_id)
    (literal : ∃ status : BatchStatus, new.status = status.literal)
    (shape : Shape loaded → isActive loaded.status = true → Shape (loaded.assigned new now))
    (dated : A.clock = true → ∀ t, ((loaded.changes new).apply now row).completed_at = some t →
      row.created_at ≤ t)
    (shown : A.honest = true → Shown D b dir job ((loaded.changes new).apply now row))
    (explained : new.status = "failed" → ∃ error, new.error = some error ∧ A.Says error)
    (completed_count : A.honest = true → row.completed_count ≠ 0 →
      ((loaded.changes new).apply now row).completed_count = row.completed_count)
    (failed_count : A.honest = true → row.failed_count ≠ 0 →
      ((loaded.changes new).apply now row).failed_count = row.failed_count) :
    Polled D A b dir job row ((loaded.changes new).apply now row) where
  attached := by simp [isId]
  kept := by
    refine Kept.apply now fun id isId' => ?_
    show (changed loaded.ray_job_id new.ray_job_id).getD row.ray_job_id = some id
    rw [sameJob, changed_self]
    exact isId'
  literal := by
    rcases column_cases loaded.status new.status row.status with assigned | ⟨-, kept⟩
    · obtain ⟨status, isStatus⟩ := literal
      exact ⟨status, assigned.trans isStatus⟩
    · obtain ⟨status, isStatus⟩ := sound.literal
      exact ⟨status, kept.trans isStatus⟩
  active := active
  ordered := by
    intro alone forward
    obtain rfl := before.same alone
    show Behind row.status (row.assigned new now).status ∧ Shape (row.assigned new now) ∧
      ∀ j, job = some j → Behind (row.assigned new now).status (reported D j)
    rw [assigned_status]
    exact ⟨answered.behind alone forward, shape (sound.shape alone forward) (active alone),
      answered.ahead forward⟩
  dated := dated
  shown := shown
  explained := by
    intro alone
    obtain rfl := before.same alone
    show Explained A (row.assigned new now)
    unfold Explained
    rw [assigned_status, assigned_error]
    exact explained
  completed_count := completed_count
  failed_count := failed_count

variable (now loaded new) in
/-- Counts that are not assigned stay, and the row is completed only if it was. -/
theorem uncounted_update (sound : RowSound D A b time dir job row)
    (notCompleted : new.status ≠ "completed")
    (completed_count : new.completed_count = loaded.completed_count)
    (failed_count : new.failed_count = loaded.failed_count)
    (sameJob : new.ray_job_id = loaded.ray_job_id) :
    (A.honest = true → Shown D b dir job ((loaded.changes new).apply now row)) ∧
      ((loaded.changes new).apply now row).completed_count = row.completed_count ∧
      ((loaded.changes new).apply now row).failed_count = row.failed_count := by
  have same : ((loaded.changes new).apply now row).completed_count = row.completed_count := by
    show (changed loaded.completed_count new.completed_count).getD row.completed_count = _
    rw [completed_count, changed_self]
    rfl
  have same' : ((loaded.changes new).apply now row).failed_count = row.failed_count := by
    show (changed loaded.failed_count new.failed_count).getD row.failed_count = _
    rw [failed_count, changed_self]
    rfl
  refine ⟨fun honest => (sound.shown honest).row (Kept.apply now fun id isId => ?_) same same' ?_,
    same, same'⟩
  · show (changed loaded.ray_job_id new.ray_job_id).getD row.ray_job_id = some id
    rw [sameJob, changed_self]
    exact isId
  · intro completed
    rcases column_cases loaded.status new.status row.status with assigned | ⟨-, kept⟩
    · exact absurd (assigned.symm.trans completed) notCompleted
    · exact kept.symm.trans completed

/-- `_update_status_only` -/
theorem polled_status (sound : RowSound D A b time dir job row)
    (isId : row.ray_job_id = some job_id) (active : A.alone = true → isActive row.status = true)
    (before : Loaded A loaded row) (answered : Answered D A answer row job)
    (literal : ∃ status : BatchStatus, answer = status.literal)
    (notTerminal : answer ∉ TERMINAL_STATUSES) :
    Polled D A b dir job row ((loaded.changes { loaded with status := answer }).apply now row) := by
  have notCompleted : answer ≠ "completed" := by
    rintro rfl
    exact notTerminal (by simp [TERMINAL_STATUSES])
  obtain ⟨shown, completed_count, failed_count⟩ := uncounted_update now loaded
    { loaded with status := answer } sound notCompleted rfl rfl rfl
  have notFailed : answer ≠ "failed" := by
    rintro rfl
    exact notTerminal (by simp [TERMINAL_STATUSES])
  refine polled_update sound isId active before answered rfl literal ?_ ?_ shown
    (fun failed => absurd failed notFailed) (fun _ _ => completed_count) fun _ _ => failed_count
  · intro shape isActive
    obtain ⟨noEnd, noError, none, none'⟩ := shape.active isActive
    constructor <;> simp [noEnd, noError, none, none', notTerminal, notFailed]
  · intro clock t isEnd
    refine sound.dated clock t (Eq.trans ?_ isEnd)
    show row.completed_at = (changed loaded.completed_at loaded.completed_at).getD row.completed_at
    rw [changed_self]
    rfl

/-- `_apply_terminal` -/
theorem polled_terminal {error : Option String} {ended : Nat}
    (sound : RowSound D A b time dir job row) (isId : row.ray_job_id = some job_id)
    (active : A.alone = true → isActive row.status = true) (before : Loaded A loaded row)
    (answered : Answered D A answer row job)
    (which : answer = "failed" ∧ (∃ text, error = some text ∧ A.Says text) ∨
      answer = "cancelled" ∧ error = none)
    (after : A.clock = true → row.created_at ≤ ended) :
    Polled D A b dir job row ((loaded.changes
      { loaded with status := answer, error := error, completed_at := some ended }).apply now row) := by
  have notCompleted : answer ≠ "completed" := by
    rcases which with ⟨rfl, -⟩ | ⟨rfl, -⟩ <;> decide
  obtain ⟨shown, completed_count, failed_count⟩ := uncounted_update now loaded
    { loaded with status := answer, error := error, completed_at := some ended } sound notCompleted rfl rfl rfl
  refine polled_update sound isId active before answered rfl ?_ ?_ ?_ shown ?_
    (fun _ _ => completed_count) fun _ _ => failed_count
  · rcases which with ⟨rfl, -⟩ | ⟨rfl, -⟩
    · exact ⟨.failed, rfl⟩
    · exact ⟨.cancelled, rfl⟩
  · intro shape isActive
    obtain ⟨-, -, none, none'⟩ := shape.active isActive
    rcases which with ⟨rfl, text, rfl, -⟩ | ⟨rfl, rfl⟩ <;>
      constructor <;> simp [*, TERMINAL_STATUSES]
  · intro clock t isEnd
    rcases column_cases loaded.completed_at (some ended) row.completed_at with assigned | ⟨-, kept⟩
    · cases assigned.symm.trans isEnd
      exact after clock
    · exact sound.dated clock t (kept.symm.trans isEnd)
  · rcases which with ⟨-, told⟩ | ⟨rfl, -⟩
    · exact fun _ => told
    · exact fun failed => absurd failed (by simp)

/-- A count that is assigned where it was loaded as zero, or as it is. -/
theorem column_counted {loaded stored count : Int} (before : loaded ≠ 0 → stored = loaded)
    (shown : stored ≠ 0 → stored = count) : (changed loaded count).getD stored = count := by
  rcases column_cases loaded count stored with assigned | ⟨same, kept⟩
  · exact assigned
  · refine kept.trans ?_
    by_cases zero : stored = 0
    · by_cases zero' : loaded = 0
      · rw [zero, same, zero']
      · rw [same, before zero']
    · exact shown zero

/-- `_apply_success` -/
theorem polled_success {completed failed ended : Nat} (sound : RowSound D A b time dir job row)
    (isId : row.ray_job_id = some job_id) (active : A.alone = true → isActive row.status = true)
    (before : Loaded A loaded row) (answered : Answered D A "completed" row job)
    (told : A.honest = true → ∃ counts, Final D b dir job row counts ∧
      completed = counts.completed ∧ failed = counts.failed)
    (after : A.clock = true → row.created_at ≤ ended) :
    Polled D A b dir job row ((loaded.changes
      { loaded with
        status := "completed"
        completed_count := completed
        failed_count := failed
        completed_at := some ended }).apply now row) := by
  let row' := (loaded.changes
    { loaded with
      status := "completed"
      completed_count := completed
      failed_count := failed
      completed_at := some ended }).apply now row
  -- whichever poller counted first, the counts are those of the job
  have counted : A.honest = true → ∃ counts, Final D b dir job row' counts ∧
      row'.completed_count = counts.completed ∧ row'.failed_count = counts.failed := by
    intro honest
    obtain ⟨counts, final, rfl, rfl⟩ := told honest
    have shown := sound.shown honest
    refine ⟨counts, final.row rfl rfl, ?_, ?_⟩
    · refine column_counted (before.completed_count honest) fun nonzero => ?_
      obtain ⟨counts', final', isCount⟩ := shown.completed_count nonzero
      rw [isCount, (final'.output.unique final.output).1]
    · refine column_counted (before.failed_count honest) fun nonzero => ?_
      obtain ⟨counts', final', isCount⟩ := shown.failed_count nonzero
      rw [isCount, (final'.output.unique final.output).2]
  refine polled_update sound isId active before answered rfl ⟨.completed, rfl⟩ ?_ ?_ ?_
    (fun failed => absurd failed (by simp)) ?_ ?_
  · intro shape isActive
    obtain ⟨-, noError, -, -⟩ := shape.active isActive
    constructor <;> simp [noError, TERMINAL_STATUSES]
  · intro clock t isEnd
    rcases column_cases loaded.completed_at (some ended) row.completed_at with assigned | ⟨-, kept⟩
    · cases assigned.symm.trans isEnd
      exact after clock
    · exact sound.dated clock t (kept.symm.trans isEnd)
  · intro honest
    obtain ⟨counts, final, completed_count, failed_count⟩ := counted honest
    exact ⟨fun _ => ⟨counts, final, completed_count⟩, fun _ => ⟨counts, final, failed_count⟩,
      fun _ => ⟨counts, final, completed_count, failed_count⟩⟩
  · intro honest nonzero
    obtain ⟨counts, final, completed_count, -⟩ := counted honest
    obtain ⟨counts', final', isCount⟩ := (sound.shown honest).completed_count nonzero
    have same := (final.output.unique (final'.output.row rfl rfl)).1
    exact completed_count.trans (by rw [isCount, same])
  · intro honest nonzero
    obtain ⟨counts, final, -, failed_count⟩ := counted honest
    obtain ⟨counts', final', isCount⟩ := (sound.shown honest).failed_count nonzero
    have same := (final.output.unique (final'.output.row rfl rfl)).2
    exact failed_count.trans (by rw [isCount, same])

end Polled

end KubeRayBatch.Cluster
