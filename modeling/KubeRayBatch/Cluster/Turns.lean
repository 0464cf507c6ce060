/-
# Cluster.Turns -- whose turn a step is

A step is either the next operation of a running process, or it is taken beside the programs:
a process is started, stopped or goes round again, Ray does something to a job, or time
passes.  Beside the programs no owner, row or directory changes.

* `stepped_of_step`: what a step does to the processes;
* `act_moves`: what a process does to the world is a move of its actor;
* `step_turn`: every step is a turn of one of the two kinds.
-/
import KubeRayBatch.Cluster.Machine

namespace KubeRayBatch.Cluster

open Theory Api Worker

set_option autoImplicit false

/-! ## Beside the programs -/

section Still

variable {w w' : World}

/-- Owners, rows and directories are the same. -/
structure Still (w w' : World) : Prop where
  issued : w'.issued = w.issued
  table : w'.table = w.table
  dirs : w'.dirs = w.dirs

theorem Still.owner (still : Still w w') (b : String) : (view w' b).owner = (view w b).owner := by
  unfold view
  rw [still.issued]

theorem Still.row (still : Still w w') (b : String) : (view w' b).row = (view w b).row := by
  unfold view
  rw [still.table]

theorem Still.dir (still : Still w w') (b : String) : (view w' b).dir = (view w b).dir := by
  unfold view
  rw [still.dirs]

theorem still_updateJob (w : World) (id : String) (f : Job → Job) : Still w (w.updateJob id f) :=
  ⟨rfl, rfl, rfl⟩

end Still

/-- What becomes of a process beside its program. -/
inductive Aged (D : Deployment) : Process → Process → Prop where
  | same (p : Process) : Aged D p p
  | dead (p : Process) : Aged D p { p with alive := false }
  | resweeps (a : Unit) : Aged D ⟨.poller, true, .ret a⟩ ⟨.poller, true, pollerRound D.rt⟩

theorem Aged.role {D : Deployment} {p p' : Process} (aged : Aged D p p') : p'.role = p.role := by
  cases aged <;> rfl

/-! ## What a step does -/

/-- What a process of a role starts with, in this world. -/
inductive Starts (D : Deployment) (w : World) : Process → Prop where
  | handler (request : CreateBatchRequest) :
      Starts D w ⟨.handler request, true, create_batch D.settings request⟩
  | reader (batch_id : String) :
      Starts D w ⟨.reader batch_id, true, streamed_results D.settings batch_id⟩
  | poller : Starts D w ⟨.poller, true, pollerRound D.rt⟩
  | worker {submission_id : String} {job : Job} {argv : List Text} (known : w.job submission_id = some job)
      (entered : jobArgv job.entrypoint = some argv) :
      Starts D w ⟨.worker submission_id, true, main D.rt D.environ argv⟩

/-- The processes that a step starts. -/
def Step.starts : Step → List Role
  | .post request => [.handler request]
  | .fetch batch_id => [.reader batch_id]
  | .poll => [.poller]
  | .start submission_id => [.worker submission_id]
  | _ => []

/-- A process goes on, is started, or ages; or only the jobs or the clock change. -/
inductive Stepped (D : Deployment) (s s' : State) : Step → Prop where
  | act {pid : Nat} {event : Event} {p : Process} {next : Proc p.role.Result}
      (found : s.procs[pid]? = some p) (alive : p.alive = true)
      (performed : Program.step (machine D.rd pid) p.program event s.world = some (next, s'.world))
      (procs : s'.procs = s.procs.set pid { p with program := next }) : Stepped D s s' (.act pid event)
  | spawn {e : Step} {new : Process} (isStart : Starts D s.world new) (starts : e.starts = [new.role])
      (still : Still s.world s'.world) (procs : s'.procs = s.procs ++ [new]) : Stepped D s s' e
  | age {e : Step} {pid : Nat} {p p' : Process} (found : s.procs[pid]? = some p) (aged : Aged D p p')
      (starts : e.starts = []) (still : Still s.world s'.world) (procs : s'.procs = s.procs.set pid p') :
      Stepped D s s' e
  | rest {e : Step} (starts : e.starts = []) (still : Still s.world s'.world)
      (procs : s'.procs = s.procs) : Stepped D s s' e

/-- What a process does in its turn. -/
theorem step_act {D : Deployment} {s s' : State} {pid : Nat} {event : Event}
    (stepped : step D (.act pid event) s = some s') : ∃ (p : Process) (next : Proc p.role.Result),
      s.procs[pid]? = some p ∧ p.alive = true ∧
      Program.step (machine D.rd pid) p.program event s.world = some (next, s'.world) ∧
      s'.procs = s.procs.set pid { p with program := next } := by
  simp only [step] at stepped
  split at stepped
  · rename_i p found
    obtain ⟨alive, performed⟩ := Option.ite_none_right_eq_some.1 stepped
    obtain ⟨⟨next, w'⟩, moved, rfl⟩ := Option.map_eq_some_iff.1 performed
    exact ⟨p, next, found, alive, moved, rfl⟩
  · cases stepped

/-- **Every step** is one of these. -/
theorem stepped_of_step {D : Deployment} {s s' : State} {e : Step} (stepped : step D e s = some s') :
    Stepped D s s' e := by
  have unmoved : Still s.world s.world := ⟨rfl, rfl, rfl⟩
  cases e with
  | act pid event =>
      obtain ⟨p, next, found, alive, performed, procs⟩ := step_act stepped
      exact .act found alive performed procs
  | kill pid =>
      obtain ⟨p, found, rfl⟩ := Option.map_eq_some_iff.1 stepped
      exact .age found (.dead p) rfl unmoved rfl
  | post request =>
      cases stepped
      exact .spawn (.handler request) rfl unmoved rfl
  | fetch batch_id =>
      cases stepped
      exact .spawn (.reader batch_id) rfl unmoved rfl
  | poll =>
      cases stepped
      exact .spawn .poller rfl unmoved rfl
  | resweep pid =>
      simp only [step] at stepped
      split at stepped
      · rename_i a found
        cases stepped
        exact .age found (.resweeps a) rfl unmoved rfl
      · cases stepped
  | start id =>
      simp only [step] at stepped
      split at stepped
      · rename_i job known
        obtain ⟨-, started⟩ := Option.ite_none_right_eq_some.1 stepped
        obtain ⟨argv, entered, rfl⟩ := Option.map_eq_some_iff.1 started
        exact .spawn (.worker known entered) rfl (still_updateJob s.world id _) rfl
      · cases stepped
  | exit pid =>
      simp only [step] at stepped
      split at stepped
      · rename_i p found
        split at stepped
        · cases stepped
          exact .age found (.dead p) rfl (still_updateJob s.world _ _) rfl
        · cases stepped
      · cases stepped
  | report id status =>
      obtain ⟨job, -, rfl⟩ := Option.map_eq_some_iff.1 stepped
      exact .rest rfl (still_updateJob s.world id _) rfl
  | tick now =>
      cases stepped
      exact .rest rfl ⟨rfl, rfl, rfl⟩ rfl

/-! ## Turns -/

section Turns

variable {D : Deployment} {A : Assumed} {s s' : State}

/-- **A process** moves the world as its actor may. -/
theorem act_moves (safe : SysInv D A s) {pid : Nat} {event : Event} {p : Process}
    {next : Proc p.role.Result} {w' : World} (may : permitted D A (.act pid event) s = true)
    (found : s.procs[pid]? = some p) (alive : p.alive = true)
    (performed : Program.step (machine D.rd pid) p.program event s.world = some (next, w')) :
    Move D A (p.role.actor pid) s.world w' := by
  have kept := safe.follows pid p found alive
  rcases (kept.step safe.world (permitted_grants may found) performed).2.1 with rfl | moves
  · exact Move.quiet ⟨rfl, rfl, rfl, rfl, rfl⟩
  · exact moves

/-- **Whose turn it is.** -/
inductive Turn (D : Deployment) (A : Assumed) (s s' : State) : Step → Prop where
  | act {pid : Nat} {event : Event} {p : Process} {next : Proc p.role.Result}
      (found : s.procs[pid]? = some p) (alive : p.alive = true)
      (performed : Program.step (machine D.rd pid) p.program event s.world = some (next, s'.world))
      (procs : s'.procs = s.procs.set pid { p with program := next })
      (moved : Move D A (p.role.actor pid) s.world s'.world) : Turn D A s s' (.act pid event)
  | aside {e : Step} (still : Still s.world s'.world)
      (aged : ∀ (pid : Nat) (p : Process), s.procs[pid]? = some p →
        ∃ p', s'.procs[pid]? = some p' ∧ Aged D p p') : Turn D A s s' e

theorem aged_spawn {procs : List Process} (new : Process) (pid : Nat) (p : Process)
    (found : procs[pid]? = some p) : ∃ p', (procs ++ [new])[pid]? = some p' ∧ Aged D p p' := by
  obtain ⟨bound, -⟩ := List.getElem?_eq_some_iff.1 found
  exact ⟨p, (List.getElem?_append_left bound).trans found, .same p⟩

theorem aged_set {procs : List Process} {pid : Nat} {p p' : Process} (found : procs[pid]? = some p)
    (aged : Aged D p p') (q : Nat) (r : Process) (found' : procs[q]? = some r) :
    ∃ r', (procs.set pid p')[q]? = some r' ∧ Aged D r r' := by
  rcases getElem?_set_found found found' with ⟨rfl, new⟩ | old
  · exact ⟨p', new, aged⟩
  · exact ⟨r, old, .same r⟩

/-- **key theorem.** Every step is the turn of a process, or is taken beside the programs. -/
theorem step_turn (safe : SysInv D A s) {e : Step} (may : permitted D A e s = true)
    (stepped : step D e s = some s') : Turn D A s s' e := by
  cases stepped_of_step stepped with
  | act found alive performed procs =>
      exact .act found alive performed procs (act_moves safe may found alive performed)
  | spawn _ _ still procs =>
      exact .aside still fun pid p found => procs ▸ aged_spawn _ pid p found
  | age found aged _ still procs =>
      exact .aside still fun q r found' => procs ▸ aged_set found aged q r found'
  | rest _ still procs => exact .aside still fun pid p found => ⟨p, procs ▸ found, .same p⟩

end Turns

end KubeRayBatch.Cluster
