/-
# Cluster.Replies -- how the requests end

Whatever the database, the volume and Ray throw, an admitted request ends with its own
object, with one of the errors of its route, or with an exception that is none of the routes';
and the poller goes on.  The two errors that the routes keep for what cannot happen are not
among the responses.

* `create_batch_mannered`, `streamed_results_mannered`: what a handler and a reader raise, when
  they find what they take for granted;
* `Serving.mannered`: so it is for every process of every state of the service;
* `replies`: the responses in every state.
-/
import KubeRayBatch.Cluster.Service

namespace KubeRayBatch.Cluster

open Theory Theory.Schema Api

set_option autoImplicit false

/-! ## What a process raises -/

/-- A process finds what it takes for granted: a handler its row, a reader its file. -/
def Role.finds : Role → (op : Op) → op.Res → Prop
  | .handler _, .get_batch _, (row : Option Batch) => row ≠ none
  | .reader _, .dir _ (.exists .results), (present : Bool) => present = true
  | _, _, _ => True

/-- What a process raises of its own. -/
def Role.Own : Role → PyException → Prop
  | .handler _, e => Escapes (fun e => e = .httpException 503 "Ray cluster unavailable") e
  | .reader batch_id, e => Escapes (fun e => StatusError batch_id e ∨ ∃ status, status ≠ "completed" ∧
      e = .httpException 409 ("Batch not complete (status=" ++ status ++ ")")) e
  | _, _ => False

/-- The operations of a process are answered by foreign exceptions. -/
def Role.terms (role : Role) : Program.Terms Op Op.Res PyException where
  asks := fun _ => True
  answers := role.finds
  fails := fun op e => op.fallible = true ∧ Foreign e

section Programs

variable {role : Role} {α : Type}

theorem obeys_of_tame {F : PyException → Prop} {p : Proc α} (tame : Tame F p) :
    p.Obeys role.terms (fun _ => True) F :=
  Program.Obeys.weaken tame.raises (fun _ _ => trivial) (fun _ _ _ => trivial)
    (fun _ _ failed => failed) (fun _ _ => trivial) fun _ raised => raised

/-- The session that loads a row, where the answers are among `P`. -/
theorem found_obeys {b : String} {P : Option Batch → Prop} {F : PyException → Prop}
    (answers : ∀ (id : String) (row : Option Batch), role.finds (.get_batch id) row → P row)
    (wider : ∀ e, Foreign e → F e) :
    (session_scope do
      let row : Option Batch ← ask (.get_batch b)
      pure (.clean, row)).Obeys role.terms P F := by
  refine (load_obeys (E := Foreign) (P := P)).weaken (fun _ _ => trivial) ?_
    (fun _ _ failed => failed.2) (fun _ loaded => loaded) wider
  intro op a found
  cases op with
  | get_batch id => exact answers id a found
  | _ => trivial

theorem attach_submitted_mannered (request : CreateBatchRequest) (batch_id ray_job_id : String) :
    (attachSubmitted request batch_id ray_job_id).Obeys (Role.handler request).terms (fun _ => True)
      (Role.handler request).Own := by
  have wider (e : PyException) (foreign : Foreign e) : (Role.handler request).Own e := .inl foreign
  refine .bind (obeys_of_tame ((attach_tame batch_id ray_job_id).mono wider)) fun _ _ => ?_
  refine .bind (obeys_of_tame (.sure rfl)) fun _ _ => ?_
  refine .bind (R := fun row => row ≠ none) (found_obeys (fun _ _ found => found) wider) ?_
  intro refreshed present
  cases refreshed with
  | none => exact absurd rfl present
  | some row => exact obeys_of_tame ((Tame.lift fun e => row_to_object_foreign).mono wider)

/-- **`create_batch`**, where the row it has inserted is there. -/
theorem create_batch_mannered (settings : Settings) (request : CreateBatchRequest) :
    (create_batch settings request).Obeys (Role.handler request).terms (fun _ => True)
      (Role.handler request).Own := by
  have wider (e : PyException) (foreign : Foreign e) : (Role.handler request).Own e := .inl foreign
  have inserts (new : NewBatch) : Tame Foreign (session_scope (pure (.insert new, ()))) :=
    .session (.ret _) foreign_self
  refine .bind (obeys_of_tame (F := (Role.handler request).Own) ?_) fun batch_id _ => ?_
  · exact .bind (.sure rfl) fun _ => .ret _
  refine .bind (obeys_of_tame (.sure rfl)) fun _ _ => ?_
  refine .bind (obeys_of_tame ((write_inputs_tame _ _ _).mono wider)) fun input_path _ => ?_
  refine .bind (obeys_of_tame ((inserts _).mono wider)) fun _ _ => ?_
  refine .bind (.catching (obeys_of_tame (submit_batch_tame _ _)) ?_) fun ray_job_id _ =>
    attach_submitted_mannered request batch_id ray_job_id
  intro e foreign
  split
  · refine obeys_of_tame (Tame.bind (.sure rfl) fun _ => .bind (.sure rfl) fun _ => ?_)
    refine .bind ((mark_failed_tame batch_id _).mono wider) fun _ => .raise (.inr rfl)
  · exact .inl foreign

/-- **`streamed_results`**, where the results of a completed row are there. -/
theorem streamed_results_mannered (settings : Settings) (batch_id : String) :
    (streamed_results settings batch_id).Obeys (Role.reader batch_id).terms (fun _ => True)
      (Role.reader batch_id).Own := by
  have wider (e : PyException) (foreign : Foreign e) : (Role.reader batch_id).Own e := .inl foreign
  have looks (b : String) : (ask (.dir b (.exists .results))).Obeys (Role.reader batch_id).terms
      (fun present : Bool => present = true) (Role.reader batch_id).Own :=
    .ask trivial (fun _ found => found) fun e failed => .inl failed.2
  refine .bind (R := fun _ => True) (.bind (R := fun _ => True)
    (found_obeys (fun _ _ _ => trivial) wider) fun row _ => ?_) fun response _ => ?_
  · cases row with
    | none => exact .inr (.inl rfl)
    | some row =>
        show Program.Obeys _ _ _ (if row.status ≠ "completed" then _ else _)
        split
        · rename_i incomplete
          exact .inr (.inr ⟨row.status, incomplete, rfl⟩)
        · refine .bind (looks batch_id) fun present there => ?_
          cases there
          exact trivial
  · refine .bind (looks response.batch_id) fun present there => ?_
    cases there
    exact .bind (obeys_of_tame ((Tame.ask _).mono wider)) fun _ _ => trivial

end Programs

/-! ## Every process of every state -/

section Runs

variable {D : Deployment} {A : Assumed} {c : State}

/-- The operations of a process are answered by foreign exceptions, or it is cancelled. -/
def Role.harsh (role : Role) : Program.Terms Op Op.Res PyException :=
  { role.terms with fails := fun op e => role.terms.fails op e ∨ e = .cancelled }

/-- A process of the API raises what is its own, or passes its cancellation on. -/
def Mannered (p : Process) : Prop :=
  p.role.isApi = true →
    p.program.Obeys p.role.harsh (fun _ => True) fun e => p.role.Own e ∨ e = .cancelled

/-- A process finds what it expects to be there. -/
theorem finds_of_expected (honest : A.honest = true) {role : Role} {rd : RayData} {pid pid' : Nat}
    {op : Op} {choice : Choice} {w w' : World} {a : op.Res}
    (expected : Expected A (role.actor pid) op w) (executed : exec rd pid' op choice w = some (a, w')) :
    role.finds op a := by
  cases role with
  | poller | worker => cases op <;> trivial
  | handler request =>
      cases op with
      | get_batch b =>
          cases executed
          obtain ⟨row, found⟩ := Option.isSome_iff_exists.1 expected
          intro absent
          cases found.symm.trans absent
      | _ => trivial
  | reader batch_id =>
      cases op with
      | dir b op =>
          cases op with
          | «exists» f =>
              cases f with
              | results =>
                  cases executed
                  exact expected honest
              | _ => trivial
          | _ => trivial
      | _ => trivial

/-- A process that starts is mannered. -/
theorem starts_mannered {w : World} {p : Process} (isStart : Starts D w p) : Mannered p := by
  intro isApi
  cases isStart with
  | handler request => exact (create_batch_tame _ _).stops.expect (create_batch_mannered _ _)
  | reader batch_id => exact (streamed_results_tame _ _).stops.expect (streamed_results_mannered _ _)
  | poller => exact (poller_round_tame _).stops.expect (obeys_of_tame (poller_round_tame _))
  | worker => cases isApi

/-- **Its own step** keeps a process mannered, if what is thrown at it is foreign or a
cancellation. -/
theorem Mannered.step (honest : A.honest = true) (safe : SysInv D A c) {pid : Nat} {event : Event}
    {p : Process} {next : Proc p.role.Result} {w : World} (mannered : Mannered p)
    (civil : p.role.isApi = true → ∀ e, event.thrown = some e → Foreign e ∨ e = .cancelled)
    (found : c.procs[pid]? = some p) (alive : p.alive = true)
    (moved : Program.step (machine D.rd pid) p.program event c.world = some (next, w)) :
    Mannered { p with program := next } := by
  intro isApi
  refine Program.Obeys.step (M := machine D.rd pid) (mannered isApi) ?_ ?_ moved
  · intro op rest a asks _ executed
    have expected := asked_for_present safe found alive asks
    exact finds_of_expected honest expected executed
  · intro op e fallible thrown
    rcases civil isApi e thrown with foreign | rfl
    · exact .inl ⟨fallible, foreign⟩
    · exact .inr rfl

end Runs

/-! ## Responses -/

variable {D : Deployment} {A : Assumed} {lax : LaxInt} {F : FastAPI lax} {API_KEY : String}
variable {E : PyException → Prop} {s s' : Service}

/-- How an admitted request ends. -/
inductive Response where
  | batch (object : BatchObject)
  | ndjson (lines : List Text)
  | raises (e : PyException)

/-- What the handler of an exchange has returned or raised.  An exception of a reader may have
come before its answer was begun, or while it was sent. -/
inductive Ends (s : Service) : Outcome → Response → Prop where
  | created {pid : Nat} {request : CreateBatchRequest} {object : BatchObject}
      (found : s.cluster.procs[pid]? = some ⟨.handler request, true, .ret object⟩) :
      Ends s (.process pid) (.batch object)
  | streamed {pid : Nat} {batch_id : String} {lines : List Text}
      (found : s.cluster.procs[pid]? = some ⟨.reader batch_id, true, .ret lines⟩) :
      Ends s (.process pid) (.ndjson lines)
  | failed {pid : Nat} {p : Process} {e : PyException} (found : s.cluster.procs[pid]? = some p)
      (raised : p.program = .raise e) : Ends s (.process pid) (.raises e)
  | shown {i : Nat} {batch_id : String} {object : BatchObject}
      (found : s.looks[i]? = some ⟨batch_id, .ret object⟩) : Ends s (.look i) (.batch object)
  | unshown {i : Nat} {batch_id : String} {e : PyException}
      (found : s.looks[i]? = some ⟨batch_id, .raise e⟩) : Ends s (.look i) (.raises e)

/-- A row that was answered for the batch, and what was written once is in its row still. -/
def Read (s : Service) (b : String) (answer : Option Batch) : Prop :=
  ∀ row, answer = some row → ∃ row', s.cluster.world.table.get b = some row' ∧ Kept row row'

theorem Read.step (serving : Serving D A F API_KEY E s) {h : Happening}
    (may : admissible D A h s = true) (served : serve D F API_KEY h s = some s') (b : String)
    (answer : Option Batch) (isRead : Read s b answer) : Read s' b answer := by
  intro row isRow
  obtain ⟨row', found, kept⟩ := isRead row isRow
  rcases serve_cluster serving.looks may served with same | ⟨e, allowed, stepped⟩
  · exact ⟨row', by rw [same, found], kept⟩
  · obtain ⟨row'', found', kept'⟩ := row_kept (reachable_inv serving.reachable) allowed stepped found
    exact ⟨row'', found', kept.trans kept'⟩

/-- What a look of a batch is answered are rows of this batch. -/
theorem Serving.looked (serving : Serving D A F API_KEY E s) :
    Looks E (fun _ b answer => Read s b answer) s.looks := by
  induction serving with
  | init => exact .nil
  | step before may broken served ih =>
      exact serve_looks ih broken (fun _ b row found => ⟨row, found, Kept.refl row⟩)
        (fun _ b answer => Read.step before may served b answer) served

/-- **A look** returns the object of the row that it asked for. -/
theorem Serving.shown_row (serving : Serving D A F API_KEY E s) {i : Nat} {batch_id : String}
    {object : BatchObject} (found : s.looks[i]? = some ⟨batch_id, .ret object⟩) :
    object.id = batch_id ∧ ∃ row, s.cluster.world.table.get batch_id = some row ∧ ShowsRow row object := by
  obtain ⟨loaded, isRead, shown⟩ := (serving.looked i _ found).returned
  obtain ⟨row, stored, kept⟩ := isRead loaded rfl
  exact ⟨(shown_columns shown).2.1.trans (kept.id.symm.trans (Table.get_id stored)), row, stored,
    loaded, shown, kept⟩

/-- **Every process** of every state is mannered. -/
theorem Serving.mannered (honest : A.honest = true) (civil : ∀ e, E e → Foreign e ∨ e = .cancelled)
    (serving : Serving D A F API_KEY E s) :
    ∀ (pid : Nat) (p : Process), s.cluster.procs[pid]? = some p → Mannered p := by
  induction serving with
  | init => exact fun pid p found => by cases found
  | step before may broken served ih =>
      have safe := reachable_inv before.reachable
      refine serve_processes (K := fun _ => Mannered) ih (fun _ _ => starts_mannered)
        (fun _ _ mannered => mannered) ?_ served
      rintro pid event p next w rfl found alive moved
      refine (ih pid p found).step honest safe ?_ found alive moved
      exact fun isApi e thrown => civil e (broken p found isApi e thrown)

end KubeRayBatch.Cluster
