/-
# Cluster.Abandoned -- rows that nobody comes back to

A handler inserts its row, submits the job, and only then notes the id of the job in the row.
The poller asks Ray about rows with a job id and passes over the others.  So a row whose
handler stops in between is left as it is: queued, for all time, even if its job runs to
the end.

* `Change.unattached`: nobody but its handler changes a row that has no job id;
* `abandoned_forever`: a row whose handler is gone before it has noted the id never changes.
-/
import KubeRayBatch.Cluster.Origin

namespace KubeRayBatch.Cluster

open Theory Api Worker

set_option autoImplicit false

/-- The process takes no more steps. -/
def Process.Gone (p : Process) : Prop := p.alive = false ∨ ∀ op next, p.program ≠ .call op next

/-- A handler that takes no more steps. -/
def GoneHandler (procs : List Process) (pid : Nat) (request : CreateBatchRequest) : Prop :=
  ∃ p : Process, procs[pid]? = some p ∧ p.role = .handler request ∧ p.Gone

/-- A row without the id of a job, left by the handler of its request. -/
structure Abandoned (s : State) (row : Batch) : Prop where
  unattached : row.ray_job_id = none
  left : ∃ pid request, GoneHandler s.procs pid request ∧ Makes s.world pid request row.id row

section Changes

variable {D : Deployment} {A : Assumed} {b : String} {now : Nat} {actor : Actor} {v v' : View}

/-- **Nobody but its handler** changes a row that has no job id. -/
theorem Change.unattached (changed : Change D A b now actor v v') {row : Batch} {pid : Nat}
    (found : v.row = some row) (unattached : row.ray_job_id = none) (owned : v.owner = some pid)
    (stranger : actor ≠ .handler pid) : v'.row = some row := by
  have mine : ∀ {pid'}, actor = .handler pid' → v.owner ≠ some pid' := by
    rintro pid' rfl owned'
    rw [owned] at owned'
    cases owned'
    exact stranger rfl
  cases changed with
  | issue | input | submit | start | work | exit | report => exact found
  | insert pid' u request path owned' => exact absurd owned' (mine rfl)
  | attach pid' row' job updated owned' => exact absurd owned' (mine rfl)
  | mark pid' row' error ended updated owned' => exact absurd owned' (mine rfl)
  | poll pid' row' row'' found' polled =>
      cases found.symm.trans found'
      exact absurd unattached polled.attached

end Changes

section Runs

variable {D : Deployment} {A : Assumed} {s s' : State} {pid : Nat} {request : CreateBatchRequest}

theorem Process.Gone.idle {p : Process} (gone : p.Gone) (alive : p.alive = true) {M : _} {event : Event}
    {w w' : World} {next : Proc p.role.Result} :
    Program.step M p.program event w ≠ some (next, w') := by
  intro performed
  rcases gone with dead | ended
  · exact absurd (alive.symm.trans dead) (by decide)
  · cases program : p.program with
    | call op rest => exact ended op rest program
    | ret a | raise e =>
        rw [program] at performed
        cases performed

/-- A handler that is gone stays gone. -/
theorem GoneHandler.step (gone : GoneHandler s.procs pid request) {e : Step} (turn : Turn D A s s' e) :
    GoneHandler s'.procs pid request := by
  obtain ⟨p, found, role, isGone⟩ := gone
  cases turn with
  | @act q event p' next found' alive performed procs moved =>
      have other : q ≠ pid := by
        rintro rfl
        cases found.symm.trans found'
        exact isGone.idle alive performed
      refine ⟨p, ?_, role, isGone⟩
      rw [procs]
      exact (List.getElem?_set_ne other).trans found
  | aside still aged =>
      obtain ⟨p', found', aging⟩ := aged pid p found
      refine ⟨p', found', ?_⟩
      cases aging with
      | same => exact ⟨role, isGone⟩
      | dead => exact ⟨role, .inl rfl⟩
      | resweeps => cases role

/-- The row of a handler that is gone, before it has a job id, is the same after every step. -/
theorem Abandoned.step {row : Batch} (abandoned : Abandoned s row) {e : Step} (turn : Turn D A s s' e) :
    Abandoned s' row := by
  obtain ⟨unattached, pid, request, gone, makes⟩ := abandoned
  refine ⟨unattached, pid, request, gone.step turn, ?_⟩
  cases turn with
  | aside still aged => exact makes.still still
  | @act q event p next found alive performed procs moved =>
      have stranger : p.role.actor q ≠ .handler pid := by
        intro isHandler
        obtain ⟨p', found', role, isGone⟩ := gone
        obtain rfl | other := eq_or_ne q pid
        · cases found'.symm.trans found
          exact isGone.idle alive performed
        · exact Role.actor_ne other p.role (.handler request) isHandler
      obtain ⟨owner, stored, u, posted⟩ := makes
      obtain ⟨row', ⟨owner', stored', u', posted'⟩, -⟩ :=
        (Makes.mk owner stored ⟨u, posted⟩ : Makes s.world pid request row.id row).step moved
      rcases moved.at row.id with same | changed
      · exact ⟨same ▸ owner, same ▸ stored, u, same ▸ posted⟩
      · have kept := changed.unattached stored unattached owner stranger
        cases kept.symm.trans stored'
        exact ⟨owner', stored', u', posted'⟩

/-- **key theorem.** A row whose handler is gone before it has noted the id of a job is the
same in every later state, whatever the pollers, Ray and its job do. -/
theorem abandoned_forever (reachable : Reachable D A s) (later : Later D A s s') {row : Batch}
    (abandoned : Abandoned s row) : Abandoned s' row ∧ row ∈ s'.world.table := by
  have kept : Abandoned s' row := by
    induction later with
    | refl => exact abandoned
    | step before may stepped ih =>
        exact ih.step (step_turn (reachable_inv (before.reachable reachable)) may stepped)
  obtain ⟨pid, request, -, makes⟩ := kept.left
  exact ⟨kept, (mem_of_view makes.stored).1⟩

end Runs

/-- A handler is killed between the submission and the note of the job's id. -/
def cutShort : List Scene := [.one (.post hiRequest), .runs 0 36, .one (.kill 0)]

/-- Its job runs to the end, and a poller sweeps. -/
def afterwards : List Scene :=
  [.one (.start "raysubmit_1"), .runs 1 1000, .one (.exit 1),
    .one (.report "raysubmit_1" (.enum "SUCCEEDED")), .one .poll, .runs 2 100]

/-- The job has succeeded, and the row is still queued. -/
theorem abandoned_forever_succeeded : ∃ (s s' : State) (row : Batch),
    Reachable sampleDeployment .all s ∧ row ∈ s'.world.table ∧
      row.status = "queued" ∧ s'.world.jobs.map (·.exit_code) = [some 0] ∧ Abandoned s' row := by
  have value : ((play sampleDeployment .all sunny cutShort .init).bind fun s =>
      (play sampleDeployment .all sunny afterwards s).map fun s' =>
        (s.world.table.map (fun row => (row.status, row.ray_job_id)), s.procs.map (·.alive),
          s'.world.jobs.map (·.exit_code))) = some ([("queued", none)], [false], [some 0]) := by
    decide +kernel
  obtain ⟨s, played, rest⟩ := Option.bind_eq_some_iff.1 value
  obtain ⟨s', played', shown⟩ := Option.map_eq_some_iff.1 rest
  obtain ⟨table, shown⟩ := Prod.mk.inj shown
  obtain ⟨alive, codes⟩ := Prod.mk.inj shown
  have reachable := reachable_play .init played
  obtain ⟨row, isTable, columns⟩ := List.map_eq_singleton_iff.1 table
  obtain ⟨status, unattached⟩ := Prod.mk.inj columns
  have mem : row ∈ s.world.table := isTable ▸ List.mem_singleton_self row
  obtain ⟨pid, ⟨request, ⟨p, found, role⟩, makes⟩, -⟩ := poster_unique reachable mem
  have dead : p.alive = false := by
    have inList := List.mem_map_of_mem (f := (·.alive)) (List.mem_of_getElem? found)
    rw [alive] at inList
    exact List.mem_singleton.1 inList
  have abandoned : Abandoned s row := ⟨unattached, pid, request, ⟨p, found, role, .inl dead⟩, makes⟩
  obtain ⟨later, mem'⟩ := abandoned_forever reachable (.of_play played') abandoned
  exact ⟨s, s', row, reachable, mem', status, codes, later⟩

end KubeRayBatch.Cluster
