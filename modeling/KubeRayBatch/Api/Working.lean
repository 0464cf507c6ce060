/-
# Api.Working -- the handlers while the database works

A policy under which every database operation is performed runs a session as one
transaction: its body, then the commit of what the body says (`perform_session`).
Each writer of a row is described by what it leaves in the row.
-/
import KubeRayBatch.Api.Batches

namespace KubeRayBatch.Api

open Theory Cluster

set_option autoImplicit false

/-- Operations of a process on itself, and on the database. -/
def databaseOp : Op → Bool
  | .log _ _ | .inc _ | .utcnow | .open_session | .get_batch _ | .list_active_batches
  | .rollback => true
  | .commit pending => pending.storable
  | _ => false

/-- The database performs whatever it is asked for, and can store. -/
def Works (policy : (op : Op) → World → Event) : Prop :=
  ∀ op w, databaseOp op = true → (policy op w).fate = .done

/-- How a session ends whose body ended like this. -/
def endSession {α : Type} (ended : Except PyException (Pending × α) × World) :
    Option (Except PyException α × World) :=
  match ended.1 with
  | .ok said =>
      (Table.commit ended.2.clock said.1 ended.2.table).map fun table =>
        (.ok said.2, { ended.2 with table := table })
  | .error e => some (.error e, ended.2)

section Sessions

variable {rd : RayData} {pid : Nat} {policy : (op : Op) → World → Event} (works : Works policy)
variable {α β : Type}

include works in
/-- An operation of the database whose answer does not depend on a choice. -/
theorem perform_database {o : Op} (database : databaseOp o = true) {w w' : World} {a : o.Res}
    (executed : ∀ c, exec rd pid o c w = some (a, w')) (f : o.Res → Proc α) :
    Program.perform (machine rd pid) policy ((ask o).bind f) w =
      Program.perform (machine rd pid) policy (f a) w' := by
  exact Program.perform_answer (machine rd pid) policy (works o w database) (executed _) f

include works in
theorem perform_log (level : LogLevel) (message : String) (f : Unit → Proc α) (w : World) :
    Program.perform (machine rd pid) policy ((ask (.log level message)).bind f) w =
      Program.perform (machine rd pid) policy (f ())
        { w with logs := w.logs ++ [(level, message)] } :=
  perform_database works (o := .log level message) rfl (fun _ => rfl) f

include works in
theorem perform_log_last (level : LogLevel) (message : String) (w : World) :
    Program.perform (machine rd pid) policy (ask (.log level message)) w =
      some (.ok (), { w with logs := w.logs ++ [(level, message)] }) := by
  have alone : (ask (.log level message)).bind .ret = ask (.log level message) :=
    Program.bind_ret _
  exact (congrArg (Program.perform (machine rd pid) policy · w) alone.symm).trans
    (perform_log works level message .ret w)

include works in
theorem perform_inc (counter : Counter) (f : Unit → Proc α) (w : World) :
    Program.perform (machine rd pid) policy ((ask (.inc counter)).bind f) w =
      Program.perform (machine rd pid) policy (f ())
        { w with increments := w.increments ++ [counter] } :=
  perform_database works (o := .inc counter) rfl (fun _ => rfl) f

include works in
theorem perform_utcnow (f : Nat → Proc α) (w : World) :
    Program.perform (machine rd pid) policy ((ask .utcnow).bind f) w =
      Program.perform (machine rd pid) policy (f w.clock) w :=
  perform_database works (o := .utcnow) rfl (fun _ => rfl) f

include works in
theorem perform_get_batch (b : String) (f : Option Batch → Proc α) (w : World) :
    Program.perform (machine rd pid) policy ((ask (.get_batch b)).bind f) w =
      Program.perform (machine rd pid) policy (f (w.table.get b)) w :=
  perform_database works (o := .get_batch b) rfl (fun _ => rfl) f

theorem session_opened (body : Proc (Pending × α)) :
    session_scope body = (ask .open_session).bind fun _ =>
      Program.catching
        (body.bind fun (pending, result) => (ask (.commit pending)).bind fun _ => .ret result)
        fun exc =>
          if exc.isinstance .exception then some ((ask .rollback).bind fun _ => .raise exc)
          else none := rfl

omit works in
/-- **A session is its body and its commit**, wherever one can be opened and rolled back. -/
theorem perform_session_commit (opens : ∀ w, (policy .open_session w).fate = .done)
    (rolls : ∀ w, (policy .rollback w).fate = .done) (body : Proc (Pending × α)) (w : World) :
    Program.perform (machine rd pid) policy (session_scope body) w =
      (Program.perform (machine rd pid) policy body w).bind fun ended =>
        match ended.1 with
        | .ok said => (Program.perform (machine rd pid) policy (ask (.commit said.1)) ended.2).map
            fun committed => (committed.1.map fun _ => said.2, committed.2)
        | .error e => some (.error e, ended.2) := by
  have rolled : ∀ (e : PyException) (t : World), Program.perform (machine rd pid) policy
      ((if e.isinstance .exception then some ((ask .rollback).bind fun _ => .raise e)
        else none).getD (.raise e : Proc α)) t = some (.error e, t) := by
    intro e t
    by_cases caught : e.isinstance .exception = true
    · rw [if_pos caught, Option.getD_some]
      exact Program.perform_answer (machine rd pid) policy (o := .rollback) (rolls t) rfl _
    · rw [if_neg caught]
      rfl
  rw [session_opened]
  refine (Program.perform_answer (machine rd pid) policy (o := .open_session) (opens w) rfl _).trans ?_
  rw [Program.perform_catching, Program.perform_bind]
  cases Program.perform (machine rd pid) policy body w with
  | none => rfl
  | some pair =>
      obtain ⟨result, t⟩ := pair
      cases result with
      | ok said =>
          simp only [Option.bind_some]
          rw [Program.perform_bind]
          cases Program.perform (machine rd pid) policy (ask (.commit said.1)) t with
          | none => rfl
          | some committed =>
              obtain ⟨result, u⟩ := committed
              cases result with
              | ok _ => rfl
              | error e => exact rolled e u
      | error e => exact rolled e t

include works in
/-- **A session is one transaction**, if the columns store what it says. -/
theorem perform_session (body : Proc (Pending × α)) (w : World)
    (stored : ∀ said t, Program.perform (machine rd pid) policy body w = some (.ok said, t) →
      said.1.storable = true) :
    Program.perform (machine rd pid) policy (session_scope body) w =
      (Program.perform (machine rd pid) policy body w).bind endSession := by
  rw [perform_session_commit (fun w => works .open_session w rfl) (fun w => works .rollback w rfl)]
  refine Option.bind_congr fun ended performed => ?_
  obtain ⟨result, t⟩ := ended
  cases result with
  | error e => rfl
  | ok said =>
      have committed := Program.perform_done (machine rd pid) policy (o := .commit said.1)
        (works _ t (stored said t performed)) .ret
      simp only [Program.bind_ret] at committed
      show (Program.perform (machine rd pid) policy (Program.ask (.commit said.1)) t).map _ = _
      rw [committed]
      simp only [machine, exec, endSession]
      cases Table.commit t.clock said.1 t.table <;> rfl

/-- A world in which the rows of one key were updated. -/
structure Updated (b : String) (row' : Batch) (w w' : World) : Prop where
  row : w'.table.get b = some row'
  others : ∀ id ≠ b, w'.table.get id = w.table.get id
  dirs : w'.dirs = w.dirs
  jobs : w'.jobs = w.jobs
  clock : w'.clock = w.clock

include works in
/-- A session whose body loads a row and says how to change it. -/
theorem perform_update {b : String} {row row' : Batch} {changes : Changes} {body : Proc (Pending × Unit)}
    {w t : World} (found : w.table.get b = some row)
    (said : Program.perform (machine rd pid) policy body w = some (.ok (.update b changes, ()), t))
    (stored : changes.storable = true) (quiet : Quiet w t)
    (becomes : changes.apply w.clock row = row') :
    ∃ w', Program.perform (machine rd pid) policy (session_scope body) w = some (.ok (), w') ∧
      Updated b row' w w' := by
  have foundThen : t.table.get b = some row := quiet.table ▸ found
  have committed : ∃ table, Table.commit t.clock (.update b changes) t.table = some table := by
    simp only [Table.commit, foundThen, stored]
    exact ⟨_, rfl⟩
  obtain ⟨table, committed⟩ := committed
  refine ⟨{ t with table := table }, ?_, ?_, ?_, quiet.dirs, quiet.jobs, quiet.clock⟩
  · rw [perform_session works, said]
    · simp [endSession, committed]
    · rintro said' t' performed
      cases said.symm.trans performed
      exact stored
  · have atKey := Table.get_commit committed b
    rw [quiet.clock, Table.after, if_pos rfl, foundThen, Option.map_some, becomes] at atKey
    exact atKey
  · intro id other
    have elsewhere := Table.get_commit committed id
    rw [quiet.table, Table.after, if_neg other] at elsewhere
    exact elsewhere

/-- A program raises an `Exception`, and leaves nothing but logs and counters. -/
def Raises (rd : RayData) (pid : Nat) (policy : (op : Op) → World → Event) (p : Proc Unit)
    (w : World) : Prop :=
  ∃ exc w', Program.perform (machine rd pid) policy p w = some (.error exc, w') ∧
    exc.isinstance .exception = true ∧ Quiet w w'

include works in
/-- A session whose body raises. -/
theorem session_raises {body : Proc (Pending × Unit)} {w t : World} {exc : PyException}
    (raised : Program.perform (machine rd pid) policy body w = some (.error exc, t))
    (caught : exc.isinstance .exception = true) (quiet : Quiet w t) :
    Raises rd pid policy (session_scope body) w := by
  refine ⟨exc, t, ?_, caught, quiet⟩
  rw [perform_session works, raised]
  · rfl
  · intro said t' performed
    cases raised.symm.trans performed

include works in
/-- A session whose update is refused. -/
theorem update_raises {b : String} {changes : Changes} {body : Proc (Pending × Unit)} {w t : World}
    {exc : PyException}
    (said : Program.perform (machine rd pid) policy body w = some (.ok (.update b changes, ()), t))
    (refused : (policy (.commit (.update b changes)) t).fate = .refused exc)
    (caught : exc.isinstance .exception = true) (quiet : Quiet w t) :
    Raises rd pid policy (session_scope body) w := by
  refine ⟨exc, t, ?_, caught, quiet⟩
  have raised := Program.perform_refused (machine rd pid) policy
    (o := .commit (.update b changes)) refused rfl .ret
  rw [Program.bind_ret] at raised
  rw [perform_session_commit (fun w => works .open_session w rfl) (fun w => works .rollback w rfl),
    said, Option.bind_some]
  exact (congrArg (Option.map _) raised).trans rfl

/-! ## The writers -/

theorem quiet_refl (w : World) : Quiet w w := ⟨rfl, rfl, rfl, rfl, rfl⟩

theorem quiet_logged (w : World) (line : LogLevel × String) :
    Quiet w { w with logs := w.logs ++ [line] } := ⟨rfl, rfl, rfl, rfl, rfl⟩

variable {b : String} {row : Batch} {w : World}

include works in
theorem perform_mark_failed (rd : RayData) (pid : Nat) (error : String)
    (found : w.table.get b = some row) :
    ∃ w', Program.perform (machine rd pid) policy (_mark_failed b error) w = some (.ok (), w') ∧
      Updated b (row.assigned
        { row with status := "failed", error := some error, completed_at := some w.clock } w.clock)
        w w' := by
  refine perform_update works found ?_ (by simp) (quiet_refl w) rfl
  refine (perform_get_batch works b _ w).trans ?_
  rw [found]
  exact perform_utcnow works _ w

include works in
theorem perform_attach_ray_job_id (rd : RayData) (pid : Nat) (ray_job_id : String)
    (found : w.table.get b = some row) :
    ∃ w', Program.perform (machine rd pid) policy (_attach_ray_job_id b ray_job_id) w =
        some (.ok (), w') ∧
      Updated b (row.assigned { row with ray_job_id := some ray_job_id } w.clock) w w' := by
  refine perform_update works found ?_ (by simp) (quiet_refl w) rfl
  refine (perform_get_batch works b _ w).trans ?_
  rw [found]
  rfl

/-- What a terminal update counts. -/
theorem quiet_counted (w : World) (counter : Counter) :
    Quiet w { w with increments := w.increments ++ [counter] } := ⟨rfl, rfl, rfl, rfl, rfl⟩

section Success

variable {rt : Runtime} {marker : Json.Value} {completed failed : Int} (now_utc : Nat)
variable (found : w.table.get b = some row)
variable (completedIs : (dictGet marker "completed" (.int 0)).bind (pyInt rt) = .ok completed)
variable (failedIs : (dictGet marker "failed" (.int 0)).bind (pyInt rt) = .ok failed)

include works found completedIs failedIs

theorem perform_apply_success (rd : RayData) (pid : Nat)
    (stored : int4 completed = true ∧ int4 failed = true) :
    ∃ w', Program.perform (machine rd pid) policy (_apply_success rt b marker now_utc) w =
        some (.ok (), w') ∧
      Updated b (row.assigned
        { row with
          status := "completed"
          completed_count := completed
          failed_count := failed
          completed_at := some now_utc } w.clock) w w' := by
  refine perform_update works found ?_ (by simp [stored])
    (quiet_counted w (.batch_terminal_total row.model "completed")) rfl
  refine (perform_get_batch works b _ w).trans ?_
  rw [found]
  simp only [completedIs, failedIs, lift]
  exact perform_inc works _ _ w

/-- Counts that the columns do not store: the commit is refused. -/
theorem apply_success_raises (rd : RayData) (pid : Nat)
    (refuses : ∀ changes t, changes.storable = false →
      ∃ exc, (policy (.commit (.update b changes)) t).fate = .refused exc ∧
        exc.isinstance .exception = true)
    (fits : int4 row.completed_count = true ∧ int4 row.failed_count = true)
    (beyond : ¬(int4 completed = true ∧ int4 failed = true)) :
    Raises rd pid policy (_apply_success rt b marker now_utc) w := by
  let assigned : Batch := { row with
    status := "completed"
    completed_count := completed
    failed_count := failed
    completed_at := some now_utc }
  have unstored : (row.changes assigned).storable = false := by
    rw [changes_storable, Bool.and_eq_false_iff]
    by_contra both
    rw [not_or, Bool.not_eq_false, Bool.not_eq_false, Bool.or_eq_true, Bool.or_eq_true,
      decide_eq_true_eq, decide_eq_true_eq] at both
    refine beyond ⟨both.1.elim (fun same => ?_) id, both.2.elim (fun same => ?_) id⟩
    · exact (congrArg int4 same).trans fits.1
    · exact (congrArg int4 same).trans fits.2
  obtain ⟨exc, refused, caught⟩ := refuses (row.changes assigned)
    { w with increments := w.increments ++ [.batch_terminal_total row.model "completed"] } unstored
  refine update_raises works ?_ refused caught
    (quiet_counted w (.batch_terminal_total row.model "completed"))
  refine (perform_get_batch works b _ w).trans ?_
  rw [found]
  simp only [completedIs, failedIs, lift]
  exact perform_inc works _ _ w

end Success

section Terminal

variable {new_status : String} {error : Json.Value} (now_utc : Nat)
variable (found : w.table.get b = some row)

include works found

theorem perform_apply_terminal (rd : RayData) (pid : Nat) {text : Option String}
    (errorIs : errorColumn error = .ok text) :
    ∃ w', Program.perform (machine rd pid) policy (_apply_terminal b new_status error now_utc) w =
        some (.ok (), w') ∧
      Updated b (row.assigned
        { row with status := new_status, error := text, completed_at := some now_utc } w.clock)
        w w' := by
  refine perform_update works found ?_ (by simp)
    (quiet_counted w (.batch_terminal_total row.model new_status)) rfl
  refine (perform_get_batch works b _ w).trans ?_
  rw [found]
  simp only [errorIs, lift]
  exact perform_inc works _ _ w

/-- An error that the column does not store. -/
theorem apply_terminal_raises (rd : RayData) (pid : Nat) {exc : PyException}
    (errorIs : errorColumn error = .error exc) :
    Raises rd pid policy (_apply_terminal b new_status error now_utc) w := by
  refine session_raises works ?_ (errorColumn_refused errorIs)
    (quiet_counted w (.batch_terminal_total row.model new_status))
  refine (perform_get_batch works b _ w).trans ?_
  rw [found]
  simp only [errorIs, lift]
  exact perform_inc works _ _ w

end Terminal

end Sessions

end KubeRayBatch.Api
