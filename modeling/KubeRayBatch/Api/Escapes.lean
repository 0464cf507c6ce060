/-
# Api.Escapes -- what the handlers and the poller raise, and when they stop

Two things about exceptions are checked along every function of the batch routes at once
(`Tame`).  An exception of the database, the volume or Ray is `Foreign`: an `Exception`, and
none of the `HTTPException`s that the routes raise themselves.  A cancellation is neither.

* `create_batch_tame`, `streamed_results_tame`: a handler lets foreign exceptions through, and
  of its own raises only those of its part of the error policy;
* `poller_round_tame`: a round of the poller raises nothing;
* all of them stop at a cancellation: no clause of theirs catches it, and they ask for
  nothing after it, not even for a rollback.
-/
import KubeRayBatch.Theory.Exceptions
import KubeRayBatch.Api.Batches

namespace KubeRayBatch

set_option autoImplicit false

/-- What a cancelled task sees at its `await`.  It is no `Exception`. -/
def PyException.cancelled : PyException := ⟨.cancelledError, [.baseException], [], none⟩

namespace Api

open Theory Cluster

/-- An `Exception` that is no `HTTPException`. -/
structure Foreign (e : PyException) : Prop where
  exception : e.isinstance .exception = true
  going_on : e.isinstance .cancelledError = false
  http : e.http = none

/-- The program stops at a cancellation, and answered by foreign exceptions raises
exceptions of `F` only. -/
structure Tame {α : Type} (F : PyException → Prop) (p : Proc α) : Prop where
  stops : p.Stops .cancelled
  raises : p.Raises Op.fallible Foreign F

namespace Tame

variable {α β : Type} {F G : PyException → Prop}

theorem ret (a : α) : Tame F (.ret a : Proc α) := ⟨trivial, trivial⟩

theorem raise {e : PyException} (admitted : F e) : Tame F (.raise e : Proc α) := ⟨trivial, admitted⟩

theorem mono {p : Proc α} (tame : Tame F p) (more : ∀ e, F e → G e) : Tame G p :=
  ⟨tame.stops, tame.raises.mono more⟩

theorem ask (op : Op) : Tame Foreign (ask op) := ⟨.ask op, .ask fun _ _ foreign => foreign⟩

/-- An operation that cannot fail. -/
theorem sure {op : Op} (certain : op.fallible = false) : Tame F (Cluster.ask op) := by
  refine ⟨.ask op, .ask fun may => ?_⟩
  rw [certain] at may
  cases may

theorem bind {p : Proc β} {f : β → Proc α} (first : Tame F p) (rest : ∀ b, Tame F (f b)) :
    Tame F (p.bind f) :=
  ⟨first.stops.bind fun b => (rest b).stops, first.raises.bind fun b => (rest b).raises⟩

theorem forEach {body : β → Proc Unit} (each : ∀ x, Tame F (body x)) (xs : List β) :
    Tame F (Program.forEach xs body) :=
  ⟨.forEach (fun x => (each x).stops) xs, .forEach (fun x => (each x).raises) xs⟩

/-- An `except` clause that does not catch a cancellation. -/
theorem catching {p : Proc α} {handler : PyException → Option (Proc α)} (body : Tame F p)
    (uncaught : handler .cancelled = none)
    (handled : ∀ e, ((handler e).getD (.raise e)).Stops .cancelled)
    (passed : ∀ e, F e → ((handler e).getD (.raise e)).Raises Op.fallible Foreign G) :
    Tame G (p.catching handler) :=
  ⟨body.stops.catching uncaught handled, body.raises.catching passed⟩

theorem lift {x : Except PyException α} (foreign : ∀ e, x = .error e → Foreign e) :
    Tame Foreign (lift x) := by
  cases x with
  | ok a => exact .ret a
  | error e => exact .raise (foreign e rfl)

/-- A session raises what its body raises, or what the database does. -/
theorem session {body : Proc (Pending × α)} (inside : Tame F body) (wider : ∀ e, Foreign e → F e) :
    Tame F (session_scope body) := by
  have asks (op : Op) : Tame F (Cluster.ask op) := (ask op).mono wider
  refine (asks _).bind fun _ => catching (F := F) ?_ rfl ?_ ?_
  · exact inside.bind fun said => (asks _).bind fun _ => .ret said.2
  · intro e
    split
    · exact (asks .rollback).stops.bind fun _ => trivial
    · trivial
  · intro e admitted
    split
    · exact (asks .rollback).raises.bind fun _ => admitted
    · exact admitted

/-- A session that loads a row, and then works on what it found. -/
theorem load {id : String} {f : Option Batch → Proc (Pending × α)} (wider : ∀ e, Foreign e → F e)
    (absent : Tame F (f none)) (present : ∀ row, Tame F (f (some row))) :
    Tame F (session_scope ((Cluster.ask (.get_batch id)).bind f)) := by
  refine session (.bind ((ask _).mono wider) fun (row : Option Batch) => ?_) wider
  cases row with
  | none => exact absent
  | some row => exact present row

end Tame

/-! ## The writers of a row -/

theorem foreign_self (e : PyException) (foreign : Foreign e) : Foreign e := foreign

theorem mark_failed_tame (batch_id error : String) : Tame Foreign (_mark_failed batch_id error) := by
  refine .load foreign_self ?_ fun row => ?_
  · exact .bind (.sure rfl) fun _ => .ret _
  · exact .bind (.sure rfl) fun _ => .ret _

theorem attach_tame (batch_id ray_job_id : String) :
    Tame Foreign (_attach_ray_job_id batch_id ray_job_id) := by
  refine .load foreign_self ?_ fun row => ?_
  · exact .bind (.sure rfl) fun _ => .ret _
  · exact .ret _

theorem update_status_tame (batch_id new_status : String) :
    Tame Foreign (_update_status_only batch_id new_status) := by
  refine .load foreign_self (.ret _) fun row => ?_
  show Tame Foreign (if row.status = new_status then _ else _)
  split <;> exact .ret _

theorem dictGet_foreign {value default : Json.Value} {key : String} {e : PyException}
    (raised : dictGet value key default = .error e) : Foreign e := by
  unfold dictGet at raised
  split at raised
  · cases raised
  · cases raised
    exact ⟨rfl, rfl, rfl⟩

/-- What `int(marker.get(key, default))` raises. -/
theorem count_foreign {rt : Runtime} {marker default : Json.Value} {key : String} {e : PyException}
    (raised : (dictGet marker key default).bind (pyInt rt) = .error e) : Foreign e := by
  have converted : ∀ v e, pyInt rt v = .error e → Foreign e := by
    intro v e raised
    cases v with
    | str s =>
        simp only [pyInt] at raised
        split at raised
        · cases raised
        · cases raised
          exact ⟨rfl, rfl, rfl⟩
    | null | arr | obj =>
        cases raised
        exact ⟨rfl, rfl, rfl⟩
    | float lexeme =>
        simp only [pyInt] at raised
        split at raised
        · cases raised
        · cases raised
          exact ⟨rfl, rfl, rfl⟩
        · cases raised
          exact ⟨rfl, rfl, rfl⟩
    | int | bool => cases raised
  cases got : dictGet marker key default with
  | ok v =>
      rw [got] at raised
      exact converted v e raised
  | error e' =>
      rw [got] at raised
      cases raised
      exact dictGet_foreign got

theorem apply_success_tame (rt : Runtime) (batch_id : String) (marker : Json.Value) (now : Nat) :
    Tame Foreign (_apply_success rt batch_id marker now) := by
  refine .load foreign_self (.ret _) fun row => ?_
  refine .bind (.lift fun e => count_foreign) fun _ => .bind (.lift fun e => count_foreign) fun _ => ?_
  exact .bind (.sure rfl) fun _ => .ret _

theorem apply_terminal_tame (batch_id new_status : String) (error : Json.Value) (now : Nat) :
    Tame Foreign (_apply_terminal batch_id new_status error now) := by
  refine .load foreign_self (.ret _) fun row => .bind (.sure rfl) fun _ => ?_
  refine .bind (.lift fun e raised => ?_) fun _ => .ret _
  cases error with
  | null => cases raised
  | bool | int | float | arr | obj =>
      cases raised
      exact ⟨rfl, rfl, rfl⟩
  | str s =>
      simp only [errorColumn] at raised
      split at raised
      · cases raised
        exact ⟨rfl, rfl, rfl⟩
      · split at raised
        · cases raised
          exact ⟨rfl, rfl, rfl⟩
        · cases raised

/-! ## The poller -/

theorem when_ready_tame {α : Type} {p : Proc α} (tame : Tame Foreign p) :
    Tame Foreign ((Cluster.ask .client_ready).bind fun (ready : Bool) =>
      if !ready then .raise (.runtimeError "ray_client not initialized") else p) := by
  refine .bind (.sure rfl) fun (ready : Bool) => ?_
  cases ready with
  | true => exact tame
  | false => exact .raise ⟨rfl, rfl, rfl⟩

theorem submit_batch_tame (entrypoint : String) (env : Option RuntimeEnv) :
    Tame Foreign (submit_batch entrypoint env) := by
  refine when_ready_tame (.bind (.ask _) fun _ => .bind (.sure rfl) fun _ => .ret _)

theorem get_status_tame (rt : Runtime) (submission_id : String) :
    Tame Foreign (get_status rt submission_id) :=
  when_ready_tame (.bind (.ask _) fun _ => .ret _)

theorem read_marker_tame (f : FileName) (batch_id : String) : Tame Foreign (read_marker f batch_id) := by
  refine .bind (.ask _) fun (present : Bool) => ?_
  cases present with
  | false => exact .ret _
  | true =>
      refine .bind (.ask _) fun (text : Text) => ?_
      cases Json.loads text with
      | some data => exact .ret _
      | none => exact .raise ⟨rfl, rfl, rfl⟩

theorem poll_terminal_tame (rt : Runtime) (batch_id new_status : String) (input_count now : Nat) :
    Tame Foreign (_poll_terminal rt batch_id new_status input_count now) := by
  unfold _poll_terminal
  split
  · refine .bind (read_marker_tame .success batch_id) fun marker => ?_
    split <;> exact apply_success_tame rt batch_id _ now
  · split
    · refine .bind (read_marker_tame .failed batch_id) fun marker => ?_
      have ends (message : Json.Value) := apply_terminal_tame batch_id "failed" message now
      show Tame Foreign (if truthy rt marker then _ else _)
      split
      · exact .bind (.lift fun e => dictGet_foreign) ends
      · exact ends _
    · exact apply_terminal_tame batch_id "cancelled" .null now

theorem poll_one_tame (rt : Runtime) (batch_id ray_job_id : String) (input_count : Nat) :
    Tame Foreign (_poll_one rt batch_id ray_job_id input_count) := by
  refine .bind (get_status_tame rt ray_job_id) fun new_status => ?_
  split
  · exact update_status_tame batch_id new_status
  · exact .bind (.sure rfl) fun now => poll_terminal_tame rt batch_id new_status input_count now

/-- An exception of one row is logged, and the sweep goes on. -/
theorem poll_row_tame (rt : Runtime) (row : Batch) : Tame Foreign (pollRow rt row) := by
  unfold pollRow
  split
  · exact .ret ()
  · refine .catching (poll_one_tame rt row.id _ row.input_count) rfl ?_ ?_
    · intro e
      split
      · exact .ask _
      · trivial
    · intro e foreign
      rw [if_pos foreign.exception]
      exact (Tame.sure rfl).raises

/-- **A round of the poller raises nothing**, and stops at a cancellation. -/
theorem poller_round_tame (rt : Runtime) : Tame (fun _ => False) (pollerRound rt) := by
  refine .catching (F := Foreign) ?_ rfl ?_ ?_
  · refine .bind (.session (.bind (.ask _) fun _ => .ret _) foreign_self) fun active => ?_
    split
    · exact .ret ()
    · exact .bind (.sure rfl) fun _ => .forEach (poll_row_tame rt) active
  · intro e
    split
    · trivial
    split
    · exact .ask _
    · trivial
  · intro e foreign
    rw [if_neg (by simp [foreign.going_on]), if_pos foreign.exception]
    exact (Tame.sure rfl).raises

/-! ## The handlers -/

theorem write_text_tame (b : String) (f : FileName) (text : Text) : Tame Foreign (writeText b f text) :=
  .forEach (fun _ => .ask _) text

theorem write_inputs_tame (root batch_id : String) (items : List Json.Record) :
    Tame Foreign (write_inputs_jsonl root batch_id items) := by
  unfold write_inputs_jsonl
  split
  · exact .raise ⟨rfl, rfl, rfl⟩
  · refine .bind (.ask _) fun _ => .bind (.ask _) fun _ => .bind (.forEach ?_ _) fun _ => .ret _
    exact fun placed => write_text_tame batch_id .input (inputLine placed.2 placed.1)

theorem row_to_object_foreign {row : Batch} {e : PyException}
    (raised : _batch_row_to_object row = .error e) : Foreign e := by
  unfold _batch_row_to_object at raised
  split at raised
  · cases raised
    exact ⟨rfl, rfl, rfl⟩
  · split_ifs at raised <;>
      (cases raised
       exact ⟨rfl, rfl, rfl⟩)

/-- A foreign exception, or one of these `HTTPException`s of a route. -/
def Escapes (own : PyException → Prop) (e : PyException) : Prop := Foreign e ∨ own e

theorem escapes_foreign {own : PyException → Prop} (e : PyException) (foreign : Foreign e) :
    Escapes own e := .inl foreign

/-- The session that loads a row and changes nothing. -/
theorem found_tame (batch_id : String) :
    Tame Foreign (session_scope do
      let row : Option Batch ← ask (.get_batch batch_id)
      pure (.clean, row)) :=
  .load foreign_self (.ret _) fun _ => .ret _

/-- `POST /v1/batches`: 503, or 500 for a row that vanished. -/
def CreateError (e : PyException) : Prop :=
  e = .httpException 503 "Ray cluster unavailable" ∨ e = .httpException 500 "Internal error"

theorem submit_failed_tame (batch_id : String) (exc : PyException) :
    Tame (Escapes CreateError) (submitFailed batch_id exc) := by
  refine .bind (.sure rfl) fun _ => .bind (.sure rfl) fun _ => ?_
  refine .bind ((mark_failed_tame batch_id _).mono escapes_foreign) fun _ => ?_
  exact .raise (.inr (.inl rfl))

theorem attach_submitted_tame (request : CreateBatchRequest) (batch_id ray_job_id : String) :
    Tame (Escapes CreateError) (attachSubmitted request batch_id ray_job_id) := by
  refine .bind ((attach_tame batch_id ray_job_id).mono escapes_foreign) fun _ => ?_
  refine .bind (.sure rfl) fun _ => ?_
  refine .bind ((found_tame batch_id).mono escapes_foreign) fun refreshed => ?_
  cases refreshed with
  | none => exact .bind (.sure rfl) fun _ => .raise (.inr (.inr rfl))
  | some row => exact (Tame.lift fun e => row_to_object_foreign).mono escapes_foreign

theorem submit_inserted_tame (settings : Settings) (request : CreateBatchRequest) (batch_id : String) :
    Tame (Escapes CreateError) (submitInserted settings request batch_id) := by
  refine .bind (.catching (submit_batch_tame _ _) rfl ?_ ?_) fun ray_job_id =>
    attach_submitted_tame request batch_id ray_job_id
  · intro e
    split
    · exact (submit_failed_tame batch_id e).stops
    · trivial
  · intro e foreign
    split
    · exact (submit_failed_tame batch_id e).raises
    · exact .inl foreign

/-- **`create_batch`** raises foreign exceptions and its two errors. -/
theorem create_batch_tame (settings : Settings) (request : CreateBatchRequest) :
    Tame (Escapes CreateError) (create_batch settings request) := by
  have inserts (new : NewBatch) : Tame Foreign (session_scope (pure (.insert new, ()))) :=
    .session (.ret _) foreign_self
  refine .bind (.bind (.sure rfl) fun _ => .ret _) fun batch_id => .bind (.sure rfl) fun _ => ?_
  refine .bind ((write_inputs_tame _ _ _).mono escapes_foreign) fun input_path => ?_
  refine .bind ((inserts _).mono escapes_foreign) fun _ => ?_
  exact submit_inserted_tame settings request batch_id

/-- `GET /v1/batches/{batch_id}`: 404. -/
def StatusError (batch_id : String) (e : PyException) : Prop :=
  e = .httpException 404 ("Batch not found: " ++ batch_id)

/-- `GET /v1/batches/{batch_id}/results`: 404, 409, or 500 for a file that is missing. -/
def ResultsError (batch_id : String) (e : PyException) : Prop :=
  e = .httpException 404 ("Batch not found: " ++ batch_id) ∨
    (∃ status, status ≠ "completed" ∧
      e = .httpException 409 ("Batch not complete (status=" ++ status ++ ")")) ∨
    e = .httpException 500 "Results file missing"

theorem get_batch_results_tame (settings : Settings) (batch_id : String) :
    Tame (Escapes (ResultsError batch_id)) (get_batch_results settings batch_id) := by
  refine .bind ((found_tame batch_id).mono escapes_foreign) fun row => ?_
  cases row with
  | none => exact .raise (.inr (.inl rfl))
  | some row =>
      show Tame _ (if row.status ≠ "completed" then _ else _)
      split
      · rename_i incomplete
        exact .raise (.inr (.inr (.inl ⟨row.status, incomplete, rfl⟩)))
      · refine .bind ((Tame.ask _).mono escapes_foreign) fun (present : Bool) => ?_
        cases present with
        | true => exact .ret _
        | false => exact .bind (.sure rfl) fun _ => .raise (.inr (.inr (.inr rfl)))

/-- **The whole exchange**: the body of a response may still fail, with a foreign exception. -/
theorem streamed_results_tame (settings : Settings) (batch_id : String) :
    Tame (Escapes (ResultsError batch_id)) (streamed_results settings batch_id) := by
  refine .bind (get_batch_results_tame settings batch_id) fun response => ?_
  refine .bind ((Tame.ask _).mono escapes_foreign) fun (present : Bool) => ?_
  cases present with
  | false => exact .raise (.inl ⟨rfl, rfl, rfl⟩)
  | true => exact .bind ((Tame.ask _).mono escapes_foreign) fun content => .ret _

end Api

end KubeRayBatch
