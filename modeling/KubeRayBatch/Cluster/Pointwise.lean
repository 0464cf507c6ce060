/-
# Cluster.Pointwise -- a sweep is a map over the rows

Whatever the order in which the rows are listed and whichever of the updates fail, a sweep
returns, and it leaves in each row what polling that row alone would leave: an exception is
caught row by row, and its transaction leaves nothing.

* `poll_one_settles`: `_poll_one` does to its row what the map says, and nothing else;
* `loop_swept`: the loop, by induction on the rows that are still to come;
* `sweep_pointwise`: the sweep applies the map to every row.
-/
import KubeRayBatch.Cluster.SweepMap

namespace KubeRayBatch.Cluster

open Theory Api Worker

set_option autoImplicit false

/-! ## What the programs of the poller do -/

/-- One row was changed, and nothing else. -/
structure Settled (w t : World) (row row' : Batch) : Prop where
  table : t.table = w.table.map fun r => if r.id = row.id then row' else r
  dirs : t.dirs = w.dirs
  jobs : t.jobs = w.jobs
  clock : t.clock = w.clock

section Performs

variable {rt : Runtime} {rd : RayData} {pid : Nat} {o : Outside} {order : List Batch}
variable {w : World} {row row' : Batch} {α : Type}

/-- A program settles a row; if it raises, it leaves the row alone. -/
def Settles (rd : RayData) (pid : Nat) (o : Outside) (order : List Batch) (p : Proc Unit)
    (w : World) (row row' : Batch) : Prop :=
  ∃ result t, Program.perform (machine rd pid) (o.policy order) p w = some (result, t) ∧
    Settled w t row row' ∧
    ∀ exc, result = .error exc → exc.isinstance .exception = true ∧ row' = row

/-- Rows with the same key are the same. -/
theorem row_of_id (keyed : w.table.Keyed) (mem : row ∈ w.table) (mem' : row' ∈ w.table)
    (same : row'.id = row.id) : row' = row := by
  have atKey := keyed.get_of_mem mem'
  rw [same, keyed.get_of_mem mem] at atKey
  exact (Option.some.inj atKey).symm

theorem settled_same (keyed : w.table.Keyed) (mem : row ∈ w.table) {t : World} (quiet : Quiet w t) :
    Settled w t row row := by
  refine ⟨?_, quiet.dirs, quiet.jobs, quiet.clock⟩
  rw [quiet.table]
  refine ((List.map_congr_left fun r inTable => ?_).trans (List.map_id _)).symm
  by_cases same : r.id = row.id
  · rw [if_pos same]
    exact (row_of_id keyed mem inTable same).symm
  · exact if_neg same

theorem Settles.raises {p : Proc Unit} {t : World} {exc : PyException} (keyed : w.table.Keyed)
    (mem : row ∈ w.table) (quiet : Quiet w t) (caught : exc.isinstance .exception = true)
    (performed : Program.perform (machine rd pid) (o.policy order) p w = some (.error exc, t)) :
    Settles rd pid o order p w row row :=
  ⟨_, t, performed, settled_same keyed mem quiet, fun _ same => by cases same; exact ⟨caught, rfl⟩⟩

theorem Settles.after {p : Proc α} {f : α → Proc Unit} {a : α}
    (first : Program.perform (machine rd pid) (o.policy order) p w = some (.ok a, w))
    (rest : Settles rd pid o order (f a) w row row') :
    Settles rd pid o order (p.bind f) w row row' := by
  obtain ⟨result, t, performed, settled⟩ := rest
  exact ⟨result, t, (Program.perform_bind_ok first f).trans performed, settled⟩

theorem simple_exception (name message : String) :
    (PyException.simple name message).isinstance .exception = true := by
  simp [PyException.simple, PyException.isinstance]

theorem dictGet_exception {value default : Json.Value} {key : String} {exc : PyException}
    (raised : dictGet value key default = .error exc) : exc.isinstance .exception = true := by
  cases value <;> cases raised <;> exact simple_exception _ _

theorem pyInt_exception {value : Json.Value} {exc : PyException}
    (raised : pyInt rt value = .error exc) : exc.isinstance .exception = true := by
  cases value with
  | str s =>
      simp only [pyInt] at raised
      split at raised <;> cases raised
      exact simple_exception _ _
  | float lexeme =>
      simp only [pyInt] at raised
      split at raised <;> cases raised
      · exact simple_exception _ _
      · simp [PyException.overflowError, PyException.isinstance]
  | int | bool => cases raised
  | null | arr | obj => cases raised; exact simple_exception _ _

/-! ### Asking and reading -/

theorem perform_answer (id : String) :
    Program.perform (machine rd pid) (o.policy order) (get_status rt id) w =
      some (o.answer rt w id, w) := by
  have ready : exec rd pid .client_ready (.flag o.ready) w = some (o.ready, w) := rfl
  refine (Program.perform_answer (machine rd pid) (o.policy order) (o := .client_ready) rfl ready
    _).trans ?_
  unfold Outside.answer
  cases o.ready with
  | false => rfl
  | true =>
      cases known : w.job id with
      | none =>
          refine (Program.perform_refused (machine rd pid) (o.policy order)
            (o := .get_job_status id) (e := o.unknown id) ?_ rfl _).trans rfl
          simp [Outside.policy, known]
      | some job =>
          cases refused : o.status id with
          | some exc =>
              refine (Program.perform_refused (machine rd pid) (o.policy order)
                (o := .get_job_status id) (e := exc) ?_ rfl _).trans rfl
              simp [Outside.policy, known, refused, fateOf]
          | none =>
              refine (Program.perform_answer (machine rd pid) (o.policy order)
                (o := .get_job_status id) (a := job.status) ?_ ?_ _).trans rfl
              · simp [Outside.policy, known, refused, fateOf]
              · exact job_status_exec rd pid known ((o.policy order) (.get_job_status id) w).choice

theorem perform_marker (b : String) (f : FileName) :
    Program.perform (machine rd pid) (o.policy order) (read_marker f b) w =
      some (o.marker w b f, w) := by
  refine (Program.perform_answer (machine rd pid) (o.policy order) (o := .dir b (.exists f)) rfl
    (exists_exec rd pid b f .go w) _).trans ?_
  unfold Outside.marker
  cases written : (w.dirs b).file f with
  | none => rfl
  | some text =>
      cases refused : o.disk b f with
      | some exc =>
          refine (Program.perform_refused (machine rd pid) (o.policy order)
            (o := .dir b (.read_text f)) (e := exc) ?_ rfl _).trans rfl
          simp [Outside.policy, refused, fateOf]
      | none =>
          refine (Program.perform_answer (machine rd pid) (o.policy order)
            (o := .dir b (.read_text f)) ?_
            (read_text_exec rd pid written ((o.policy order) (.dir b (.read_text f)) w).choice)
            _).trans ?_
          · simp [Outside.policy, refused, fateOf]
          · cases decoded : Json.loads text <;> simp [decoded]

/-! ### Writing -/

/-- A session that assigns values to its row. -/
theorem update_settles {body : Proc (Pending × Unit)} {t : World} {new : Nat → Batch}
    (keyed : w.table.Keyed) (mem : row ∈ w.table) (quiet : Quiet w t)
    (loaded : o.load row.id = none)
    (said : Program.perform (machine rd pid) (o.policy order) body w =
      some (.ok (.update row.id (row.changes (new w.clock)), ()), t)) :
    Settles rd pid o order (session_scope body) w row (o.settle w row (.ok new)) := by
  have ended : Program.perform (machine rd pid) (o.policy order) (session_scope body) w = _ :=
    perform_session_commit (fun _ => rfl) (fun _ => rfl) body w
  rw [said] at ended
  by_cases stored : (row.changes (new w.clock)).storable = true
  swap
  · rw [Bool.not_eq_true] at stored
    have raised := Program.perform_refused (machine rd pid) (o.policy order)
      (o := .commit (.update row.id (row.changes (new w.clock)))) (s := t) (e := o.unstorable row.id)
      (by simp [Outside.policy, stored]) rfl .ret
    rw [Program.bind_ret] at raised
    rw [Outside.settle_unstored stored]
    refine Settles.raises keyed mem quiet (o.unstorable_exception row.id) (ended.trans ?_)
    simp [ask, raised, Except.map]
  cases refused : o.commit row.id with
  | some exc =>
      have kept : o.settle w row (.ok new) = row := Outside.settle_commit refused _
      have raised := Program.perform_refused (machine rd pid) (o.policy order)
        (o := .commit (.update row.id (row.changes (new w.clock)))) (s := t) (e := exc)
        (by simp only [Outside.policy, stored, refused, fateOf, if_true]) rfl .ret
      rw [Program.bind_ret] at raised
      rw [kept]
      refine Settles.raises keyed mem quiet (o.commit_exception row.id exc refused) (ended.trans ?_)
      simp [ask, raised, Except.map]
  | none =>
      have becomes : o.settle w row (.ok new) = row.assigned (new w.clock) w.clock :=
        Outside.settle_ok loaded refused stored
      have found : t.table.get row.id = some row := quiet.table ▸ keyed.get_of_mem mem
      let u : World := { t with table := t.table.map fun r =>
        if r.id = row.id then (row.changes (new w.clock)).apply t.clock r else r }
      have executed : exec rd pid (.commit (.update row.id (row.changes (new w.clock)))) .go t =
          some ((), u) := by
        simp only [exec, Table.commit, found, stored, if_true, Option.map_some]
        rfl
      have committed := Program.perform_answer (machine rd pid) (o.policy order)
        (o := .commit (.update row.id (row.changes (new w.clock)))) (s := t)
        (by simp only [Outside.policy, stored, refused, fateOf, if_true]) executed .ret
      rw [Program.bind_ret] at committed
      rw [becomes]
      refine ⟨.ok (), u, ended.trans ?_, ⟨?_, quiet.dirs, quiet.jobs, quiet.clock⟩,
        fun _ raised => by cases raised⟩
      · simp only [Option.bind_some, ask, committed]
        rfl
      · simp only [u, quiet.table, quiet.clock]
        refine List.map_congr_left fun r inTable => ?_
        by_cases same : r.id = row.id
        · rw [if_pos same, if_pos same, row_of_id keyed mem inTable same]
          rfl
        · rw [if_neg same, if_neg same]

/-- A session that raises before it says what it changes. -/
theorem session_raises {body : Proc (Pending × Unit)} {t : World} {exc : PyException}
    (keyed : w.table.Keyed) (mem : row ∈ w.table) (quiet : Quiet w t)
    (caught : exc.isinstance .exception = true)
    (raised : Program.perform (machine rd pid) (o.policy order) body w = some (.error exc, t)) :
    Settles rd pid o order (session_scope body) w row row := by
  have ended : Program.perform (machine rd pid) (o.policy order) (session_scope body) w = _ :=
    perform_session_commit (fun _ => rfl) (fun _ => rfl) body w
  rw [raised] at ended
  exact Settles.raises keyed mem quiet caught ended

theorem perform_found (keyed : w.table.Keyed) (mem : row ∈ w.table) (loaded : o.load row.id = none)
    (f : Option Batch → Proc α) :
    Program.perform (machine rd pid) (o.policy order) ((ask (.get_batch row.id)).bind f) w =
      Program.perform (machine rd pid) (o.policy order) (f (some row)) w := by
  refine Program.perform_answer (machine rd pid) (o.policy order) (o := .get_batch row.id) ?_ ?_ f
  · simp [Outside.policy, loaded, fateOf]
  · show some (w.table.get row.id, w) = _
    rw [keyed.get_of_mem mem]
    rfl

/-- A session whose row cannot be loaded leaves it. -/
theorem load_settles (keyed : w.table.Keyed) (mem : row ∈ w.table)
    {f : Option Batch → Proc (Pending × Unit)} {new : Except PyException (Nat → Batch)}
    (rest : o.load row.id = none → Settles rd pid o order
      (session_scope ((ask (.get_batch row.id)).bind f)) w row (o.settle w row new)) :
    Settles rd pid o order (session_scope ((ask (.get_batch row.id)).bind f)) w row
      (o.settle w row new) := by
  cases refused : o.load row.id with
  | none => exact rest refused
  | some exc =>
      rw [Outside.settle_load refused]
      have caught := o.load_exception row.id exc refused
      refine session_raises keyed mem (quiet_refl w) caught ?_
      refine (Program.perform_refused (machine rd pid) (o.policy order) (o := .get_batch row.id)
        (e := exc) ?_ rfl f).trans rfl
      simp [Outside.policy, refused, fateOf]

theorem perform_counted (counter : Counter) (f : Unit → Proc α) :
    Program.perform (machine rd pid) (o.policy order) ((ask (.inc counter)).bind f) w =
      Program.perform (machine rd pid) (o.policy order) (f ())
        { w with increments := w.increments ++ [counter] } :=
  Program.perform_answer (machine rd pid) (o.policy order) (o := .inc counter) rfl rfl f

theorem quiet_inc (w : World) (counter : Counter) :
    Quiet w { w with increments := w.increments ++ [counter] } := ⟨rfl, rfl, rfl, rfl, rfl⟩

theorem update_status_settles (keyed : w.table.Keyed) (mem : row ∈ w.table) (new_status : String) :
    Settles rd pid o order (_update_status_only row.id new_status) w row
      (o.settle w row (.ok fun _ => { row with status := new_status })) := by
  refine load_settles keyed mem fun loaded => ?_
  by_cases same : row.status = new_status
  · have kept : o.settle w row (.ok fun _ => { row with status := new_status }) = row := by
      subst same
      exact Outside.settle_self
    have ended : Program.perform (machine rd pid) (o.policy order)
        (_update_status_only row.id new_status) w = _ :=
      perform_session_commit (fun _ => rfl) (fun _ => rfl) _ w
    rw [kept]
    refine ⟨.ok (), w, ended.trans ?_, settled_same keyed mem (quiet_refl w), nofun⟩
    refine (congrArg (Option.bind · _) (perform_found keyed mem loaded _)).trans ?_
    simp only [if_pos same]
    rfl
  · refine update_settles keyed mem (quiet_refl w) loaded
      ((perform_found keyed mem loaded _).trans ?_)
    simp only [if_neg same]
    rfl

theorem count_exception {data default : Json.Value} {key : String} {exc : PyException}
    (raised : (dictGet data key default).bind (pyInt rt) = .error exc) :
    exc.isinstance .exception = true := by
  cases got : dictGet data key default with
  | error exc' =>
      rw [got] at raised
      cases raised
      exact dictGet_exception got
  | ok value =>
      rw [got] at raised
      exact pyInt_exception raised

theorem apply_success_settles (keyed : w.table.Keyed) (mem : row ∈ w.table) (data : Json.Value) :
    Settles rd pid o order (_apply_success rt row.id data w.clock) w row
      (o.settle w row (Outside.success rt data row)) := by
  refine load_settles keyed mem fun loaded => ?_
  unfold Outside.success
  cases completed : (dictGet data "completed" (.int 0)).bind (pyInt rt) with
  | error exc =>
      refine session_raises keyed mem (quiet_refl w) (count_exception completed)
        ((perform_found keyed mem loaded _).trans ?_)
      simp only [lift]
      rfl
  | ok completed_count =>
      cases failed : (dictGet data "failed" (.int 0)).bind (pyInt rt) with
      | error exc =>
          refine session_raises keyed mem (quiet_refl w) (count_exception failed)
            ((perform_found keyed mem loaded _).trans ?_)
          simp only [lift]
          rfl
      | ok failed_count =>
          have counted := quiet_inc w (.batch_terminal_total row.model "completed")
          refine update_settles keyed mem counted loaded
            ((perform_found keyed mem loaded _).trans ?_)
          simp only [lift]
          exact perform_counted _ _

theorem apply_terminal_settles (keyed : w.table.Keyed) (mem : row ∈ w.table) (new_status : String)
    (error : Json.Value) :
    Settles rd pid o order (_apply_terminal row.id new_status error w.clock) w row
      (o.settle w row (Outside.failure new_status error row)) := by
  refine load_settles keyed mem fun loaded => ?_
  have counted := quiet_inc w (.batch_terminal_total row.model new_status)
  unfold Outside.failure
  cases column : errorColumn error with
  | error exc =>
      refine session_raises keyed mem counted (errorColumn_refused column)
        ((perform_found keyed mem loaded _).trans ((perform_counted _ _).trans ?_))
      simp only [lift]
      rfl
  | ok text =>
      refine update_settles keyed mem counted loaded
        ((perform_found keyed mem loaded _).trans ((perform_counted _ _).trans ?_))
      simp only [lift]
      rfl

/-! ### The poller -/

theorem answer_exception {id : String} {exc : PyException}
    (raised : o.answer rt w id = .error exc) : exc.isinstance .exception = true := by
  unfold Outside.answer at raised
  cases ready : o.ready with
  | false =>
      rw [ready] at raised
      cases raised
      exact simple_exception _ _
  | true =>
      rw [ready] at raised
      cases known : w.job id with
      | none =>
          rw [known] at raised
          cases raised
          exact o.unknown_exception id
      | some job =>
          rw [known] at raised
          cases refused : o.status id with
          | none => simp [refused] at raised
          | some exc' =>
              simp only [refused, if_true] at raised
              cases raised
              exact o.status_exception id exc refused

theorem marker_exception {b : String} {f : FileName} {exc : PyException}
    (raised : o.marker w b f = .error exc) : exc.isinstance .exception = true := by
  unfold Outside.marker at raised
  split at raised
  · cases raised
  · split at raised
    · rename_i refused
      cases raised
      exact o.disk_exception b f exc refused
    · split at raised
      · cases raised
      · cases raised
        decide

/-- A program that raises before it writes. -/
theorem Settles.before {p : Proc α} {f : α → Proc Unit} {exc : PyException}
    (keyed : w.table.Keyed) (mem : row ∈ w.table) (caught : exc.isinstance .exception = true)
    (first : Program.perform (machine rd pid) (o.policy order) p w = some (.error exc, w)) :
    Settles rd pid o order (p.bind f) w row row :=
  .raises keyed mem (quiet_refl w) caught (Program.perform_bind_error first f)

theorem poll_completed_settles (keyed : w.table.Keyed) (mem : row ∈ w.table) :
    Settles rd pid o order (_poll_terminal rt row.id "completed" row.input_count w.clock) w row
      (o.settle w row ((o.marker w row.id .success).bind fun data =>
        Outside.success rt (Outside.trusted row data) row)) := by
  have read : Program.perform (machine rd pid) (o.policy order) (read_marker .success row.id) w =
    some (o.marker w row.id .success, w) := perform_marker row.id .success
  unfold _poll_terminal
  cases found : o.marker w row.id .success with
  | error exc =>
      rw [found] at read
      exact .before keyed mem (marker_exception found) read
  | ok data =>
      rw [found] at read
      refine .after read ?_
      show Settles _ _ _ _ _ _ _
        (o.settle w row (Outside.success rt (Outside.trusted row data) row))
      cases data <;> exact apply_success_settles keyed mem _

theorem poll_failed_settles (keyed : w.table.Keyed) (mem : row ∈ w.table) :
    Settles rd pid o order (_poll_terminal rt row.id "failed" row.input_count w.clock) w row
      (o.settle w row ((o.marker w row.id .failed).bind fun data =>
        (Outside.failureText rt data).bind fun error => Outside.failure "failed" error row)) := by
  have read : Program.perform (machine rd pid) (o.policy order) (read_marker .failed row.id) w =
    some (o.marker w row.id .failed, w) := perform_marker row.id .failed
  unfold _poll_terminal
  cases found : o.marker w row.id .failed with
  | error exc =>
      rw [found] at read
      exact .before keyed mem (marker_exception found) read
  | ok data =>
      rw [found] at read
      refine .after read ?_
      show Settles _ _ _ _ _ _ _ (o.settle w row ((Outside.failureText rt data).bind fun error =>
        Outside.failure "failed" error row))
      unfold Outside.failureText
      by_cases told : truthy rt data = true
      · rw [if_pos told]
        simp only [if_pos told]
        cases text : dictGet data "error" .null with
        | error exc => exact .before keyed mem (dictGet_exception text) rfl
        | ok error => exact .after rfl (apply_terminal_settles keyed mem _ _)
      · rw [if_neg told]
        simp only [if_neg told]
        exact apply_terminal_settles keyed mem _ _

/-- `_poll_one` does to its row what the map says. -/
theorem poll_one_settles (keyed : w.table.Keyed) (mem : row ∈ w.table) (id : String) :
    Settles rd pid o order (_poll_one rt row.id id row.input_count) w row
      (o.polled rt w row id) := by
  have asked : Program.perform (machine rd pid) (o.policy order) (get_status rt id) w = _ :=
    perform_answer id
  unfold _poll_one Outside.polled Outside.told
  cases answered : o.answer rt w id with
  | error exc =>
      rw [answered] at asked
      exact .before keyed mem (answer_exception answered) asked
  | ok new_status =>
      rw [answered] at asked
      refine .after asked ?_
      show Settles _ _ _ _ _ _ _ (o.settle w row (o.assigns rt w row new_status))
      by_cases terminal : new_status ∈ TERMINAL_STATUSES
      · have timed : Program.perform (machine rd pid) (o.policy order) (ask .utcnow) w =
            some (.ok w.clock, w) := rfl
        rw [if_neg (not_not_intro terminal)]
        refine .after timed ?_
        unfold Outside.assigns
        rw [if_neg (not_not_intro terminal)]
        by_cases completed : new_status = "completed"
        · subst completed
          exact poll_completed_settles keyed mem
        · rw [if_neg completed]
          by_cases failed : new_status = "failed"
          · subst failed
            exact poll_failed_settles keyed mem
          · rw [if_neg failed]
            unfold _poll_terminal
            rw [if_neg completed, if_neg failed]
            exact apply_terminal_settles keyed mem _ _
      · rw [if_pos terminal, Outside.assigns_running terminal]
        exact update_status_settles keyed mem new_status

/-! ### The sweep -/

variable (rt rd pid o order)

/-- The rows of these keys were swept, and nothing else was touched. -/
structure SweptRows (w t : World) (ids : List String) : Prop where
  table : t.table = w.table.map fun r => if r.id ∈ ids then o.swept rt w r else r
  dirs : t.dirs = w.dirs
  jobs : t.jobs = w.jobs
  clock : t.clock = w.clock

/-- One iteration of the loop: whatever `_poll_one` raises is logged. -/
theorem pollRow_swept (keyed : w.table.Keyed) (mem : row ∈ w.table)
    (active : isActive row.status = true) :
    ∃ t, Program.perform (machine rd pid) (o.policy order) (pollRow rt row) w = some (.ok (), t) ∧
      Settled w t row (o.swept rt w row) := by
  unfold pollRow
  cases isId : row.ray_job_id with
  | none =>
      refine ⟨w, rfl, ?_⟩
      rw [Outside.swept_same (.inr isId)]
      exact settled_same keyed mem (quiet_refl w)
  | some id =>
      have swept : o.swept rt w row = o.polled rt w row id := by
        unfold Outside.swept
        rw [isId]
        exact if_pos active
      have one : Settles rd pid o order (_poll_one rt row.id id row.input_count) w row _ :=
        poll_one_settles keyed mem id
      obtain ⟨result, t, performed, settled, raises⟩ := one
      rw [swept]
      cases result with
      | ok done =>
          exact ⟨t, Program.perform_catching_ok performed _, settled⟩
      | error exc =>
          obtain ⟨caught, -⟩ := raises exc rfl
          let line := (LogLevel.warning,
            "poller: failed to update " ++ row.id ++ ": " ++ exc.shown)
          refine ⟨{ t with logs := t.logs ++ [line] },
            (Program.perform_catching_error performed _).trans ?_,
            ⟨settled.table, settled.dirs, settled.jobs, settled.clock⟩⟩
          rw [if_pos caught]
          rfl

/-- The loop, by induction on the rows that are still to come. -/
theorem loop_swept (rows : List Batch) :
    ∀ w : World, w.table.Keyed → (rows.map (·.id)).Nodup →
      (∀ row ∈ rows, row ∈ w.table ∧ isActive row.status = true) →
      ∃ t, Program.perform (machine rd pid) (o.policy order) (Program.forEach rows (pollRow rt)) w =
          some (.ok (), t) ∧ SweptRows rt o w t (rows.map (·.id)) := by
  induction rows with
  | nil =>
      intro w _ _ _
      refine ⟨w, rfl, ⟨?_, rfl, rfl, rfl⟩⟩
      simp
  | cons row rest ih =>
      intro w keyed distinct listed
      obtain ⟨fresh, distinct⟩ := List.nodup_cons.1 distinct
      obtain ⟨mem, active⟩ := listed row List.mem_cons_self
      obtain ⟨u, performed, settled⟩ := pollRow_swept rt rd pid o order keyed mem active
      have ids : u.table.map (·.id) = w.table.map (·.id) := by
        rw [settled.table, List.map_map]
        refine List.map_congr_left fun r _ => ?_
        show (if r.id = row.id then o.swept rt w row else r).id = r.id
        split
        · rename_i same
          rw [Outside.swept_id, same]
        · rfl
      -- the rows to come are still there
      have kept : ∀ r ∈ rest, r ∈ u.table ∧ isActive r.status = true := by
        intro r later
        obtain ⟨inTable, isActive⟩ := listed r (List.mem_cons_of_mem _ later)
        have other : r.id ≠ row.id := by
          intro same
          refine fresh ?_
          show row.id ∈ rest.map (·.id)
          exact same ▸ List.mem_map_of_mem later
        refine ⟨?_, isActive⟩
        rw [settled.table]
        exact List.mem_map.2 ⟨r, inTable, if_neg other⟩
      have keyed' : u.table.Keyed := by
        unfold Table.Keyed
        rw [ids]
        exact keyed
      obtain ⟨t, looped, swept⟩ := ih u keyed' distinct kept
      refine ⟨t, (Program.perform_bind_ok performed _).trans looped,
        ⟨?_, swept.dirs.trans settled.dirs, swept.jobs.trans settled.jobs,
          swept.clock.trans settled.clock⟩⟩
      rw [swept.table, settled.table, List.map_map,
        Outside.swept_frame settled.dirs settled.jobs settled.clock]
      refine List.map_congr_left fun r inTable => ?_
      simp only [Function.comp_apply, List.map_cons, List.mem_cons]
      by_cases same : r.id = row.id
      · have later : (o.swept rt w row).id ∉ rest.map (·.id) := by
          rw [Outside.swept_id]
          exact fresh
        rw [if_pos same, if_neg later, if_pos (.inl same), row_of_id keyed mem inTable same]
      · simp only [same, if_false, false_or]

/-- A sweep applies the map to every row. -/
theorem perform_sweep (keyed : w.table.Keyed) (listed : order.Perm w.table.active) :
    ∃ t, Program.perform (machine rd pid) (o.policy order) (poll_active_batches rt) w =
        some (.ok (), t) ∧
      t.table = w.table.map (o.swept rt w) ∧ t.dirs = w.dirs ∧ t.jobs = w.jobs ∧
      t.clock = w.clock := by
  have chosen : exec rd pid .list_active_batches (.order order) w = some (order, w) :=
    if_pos (List.isPerm_iff.2 listed)
  have opened : Program.perform (machine rd pid) (o.policy order) (session_scope do
      let rows : List Batch ← ask .list_active_batches
      pure (.clean, rows)) w = some (.ok order, w) := by
    refine (perform_session_commit (fun _ => rfl) (fun _ => rfl) _ w).trans ?_
    refine (congrArg (Option.bind · _) (Program.perform_answer (machine rd pid) (o.policy order)
      (o := .list_active_batches) rfl chosen _)).trans rfl
  have members : ∀ r, r ∈ order ↔ r ∈ w.table ∧ isActive r.status = true :=
    fun r => listed.mem_iff.trans Table.mem_active
  have swept : ∀ {t : World}, SweptRows rt o w t (order.map (·.id)) →
      t.table = w.table.map (o.swept rt w) := by
    intro t swept
    rw [swept.table]
    refine List.map_congr_left fun r inTable => ?_
    by_cases active : isActive r.status = true
    · exact if_pos (List.mem_map_of_mem ((members r).2 ⟨inTable, active⟩))
    · rw [Outside.swept_same (.inl (by simpa using active)), ite_self]
  have started : Program.perform (machine rd pid) (o.policy order) (poll_active_batches rt) w = _ :=
    Program.perform_bind_ok opened _
  by_cases none : order.isEmpty = true
  · refine ⟨w, started.trans ?_, ?_, rfl, rfl, rfl⟩
    · rw [if_pos none]
      rfl
    · rw [List.isEmpty_iff.1 none] at swept
      refine swept ⟨?_, rfl, rfl, rfl⟩
      simp
  · let line := (LogLevel.info, "poller: sweeping " ++ toString order.length ++ " active batches")
    have distinct : (order.map (·.id)).Nodup :=
      (listed.map _).nodup_iff.2 (keyed.sublist (List.filter_sublist.map _))
    let u : World := { w with logs := w.logs ++ [line] }
    have same : o.swept rt u = o.swept rt w := Outside.swept_frame rfl rfl rfl
    obtain ⟨t, looped, rows⟩ :=
      loop_swept rt rd pid o order order u keyed distinct fun r mem => (members r).1 mem
    refine ⟨t, started.trans ?_, swept ⟨?_, rows.dirs, rows.jobs, rows.clock⟩, rows.dirs, rows.jobs,
      rows.clock⟩
    · rw [if_neg none]
      exact looped
    · rw [rows.table, same]

end Performs

/-! ## The sweep is a map -/

/-- **A sweep is a map over the rows**: independent of the order of the rows, doing to each row
what `_poll_one` does to it alone, and idempotent as long as commits succeed. -/
theorem sweep_pointwise (rt : Runtime) (rd : RayData) (pid : Nat) (o : Outside) {w : World}
    (keyed : w.table.Keyed) {order : List Batch} (listed : order.Perm w.table.active) :
    ∃ t, Program.perform (machine rd pid) (o.policy order) (poll_active_batches rt) w =
        some (.ok (), t) ∧
      t.table = w.table.map (o.swept rt w) ∧
      (∀ row ∈ w.table, isActive row.status = false ∨ row.ray_job_id = none →
        o.swept rt w row = row) ∧
      (∀ row ∈ w.table, ∀ id, isActive row.status = true → row.ray_job_id = some id →
        ∃ result u, Program.perform (machine rd pid) (o.policy [])
            (_poll_one rt row.id id row.input_count) { w with table := [row] } = some (result, u) ∧
          u.table = [o.swept rt w row] ∧
          ∀ exc, result = .error exc → o.swept rt w row = row) ∧
      ((∀ b, o.commit b = none) → ∀ (w₂ : World) (order₂ : List Batch), w₂.table = t.table →
        w₂.dirs = w.dirs → w₂.jobs = w.jobs → order₂.Perm w₂.table.active →
        ∃ t₂, Program.perform (machine rd pid) (o.policy order₂) (poll_active_batches rt) w₂ =
            some (.ok (), t₂) ∧ t₂.table = t.table) := by
  obtain ⟨t, performed, table, -, -, -⟩ := perform_sweep rt rd pid o order keyed listed
  refine ⟨t, performed, table, fun row _ still => Outside.swept_same still, ?_, ?_⟩
  · intro row _ id active isId
    have alone : o.swept rt w row = o.polled rt { w with table := [row] } row id := by
      have same : o.swept rt { w with table := [row] } = o.swept rt w :=
        Outside.swept_frame rfl rfl rfl
      rw [← same]
      unfold Outside.swept
      rw [isId]
      exact if_pos active
    have single : Table.Keyed [row] := List.nodup_singleton _
    have one : Settles rd pid o [] (_poll_one rt row.id id row.input_count)
        { w with table := [row] } row _ :=
      poll_one_settles single List.mem_cons_self id
    obtain ⟨result, u, polled, settled, raises⟩ := one
    rw [alone]
    refine ⟨result, u, polled, ?_, fun exc raised => (raises exc raised).2⟩
    rw [settled.table]
    exact congrArg (· :: []) (if_pos rfl)
  · intro commits w₂ order₂ same dirs jobs listed₂
    have keyed₂ : w₂.table.Keyed := by
      have ids : (w.table.map (o.swept rt w)).map (·.id) = w.table.map (·.id) := by
        rw [List.map_map]
        exact List.map_congr_left fun row _ => Outside.swept_id row
      unfold Table.Keyed
      rw [same, table, ids]
      exact keyed
    obtain ⟨t₂, performed₂, table₂, -, -, -⟩ := perform_sweep rt rd pid o order₂ keyed₂ listed₂
    refine ⟨t₂, performed₂, ?_⟩
    rw [table₂, same, table, List.map_map]
    exact List.map_congr_left fun row _ => Outside.swept_again commits dirs jobs row

/-- Nothing fails. -/
def nothingFails : Outside where
  ready := true
  status _ := none
  unknown _ := .runtimeError "Job does not exist"
  disk _ _ := none
  load _ := none
  commit _ := none
  unstorable _ := .overflowError "value out of int32 range"
  status_exception := nofun
  unknown_exception _ := by decide
  disk_exception := nofun
  load_exception := nofun
  commit_exception := nofun
  unstorable_exception _ := by decide

/-- A row whose job failed, a row whose job Ray has forgotten, and a row without a job. -/
def threeRows : Table :=
  [failedJobRow, { failedJobRow with id := "batch_2", ray_job_id := some "raysubmit_2" },
    { failedJobRow with id := "batch_3", ray_job_id := none }]

theorem sweep_three_rows : ∃ t, Program.perform (machine idleRay 0)
      (nothingFails.policy threeRows.reverse) (poll_active_batches .ascii)
      { failedJobWorld none with table := threeRows } = some (.ok (), t) ∧
    t.table.map (·.status) = ["failed", "in_progress", "in_progress"] := by
  have keyed : (threeRows.map (·.id)).Nodup := by decide
  have listed : threeRows.reverse.Perm threeRows.active := List.reverse_perm threeRows
  obtain ⟨t, performed, table, -⟩ := sweep_pointwise .ascii idleRay 0 nothingFails
    (w := { failedJobWorld none with table := threeRows }) keyed listed
  refine ⟨t, performed, ?_⟩
  rw [table]
  decide +kernel

end KubeRayBatch.Cluster
