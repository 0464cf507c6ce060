/-
# Api.Counters -- where the counters of the batch routes are bumped

A batch is counted in two places, and neither is atomic with the row.  `create_batch`
counts a submission after it has committed the job id; a sweep counts an end before it
commits the terminal status.  `HandlerNote` and `RoundNote` say what a task has done and
still owes; the protocols `handlers` and `rounds` say what may happen in each note, as
long as no bumped counter is left behind.

* `create_batch_follows`, `round_follows`: the programs keep to their protocols, and end
  without a debt.
-/
import KubeRayBatch.Theory.Typestate
import KubeRayBatch.Api.Twins
import KubeRayBatch.Cluster.Lifecycle

namespace KubeRayBatch.Api

open Theory Cluster

set_option autoImplicit false

/-! ## Notes -/

/-- What a handler of `POST /v1/batches` stands for. -/
inductive HandlerNote where
  | idle
  /-- Its row is inserted and has no job yet. -/
  | waiting (b model : String)
  /-- The job id is committed and not counted yet. -/
  | owes (model : String)
  deriving DecidableEq

/-- What a sweep stands for. -/
inductive RoundNote where
  | starting
  /-- Rows with these ids are still to be polled; the last row loaded, with its model. -/
  | polling (ids : List String) (loaded : Option (String × String))
  /-- The end of a batch is counted and not committed yet. -/
  | paid (ids : List String) (b model status : String)
  deriving DecidableEq

namespace HandlerNote

/-- Nothing is owed. -/
def Clear (n : HandlerNote) : Prop := ∀ model, n ≠ .owes model

end HandlerNote

namespace RoundNote

def Clear (n : RoundNote) : Prop := ∀ ids b model status, n ≠ .paid ids b model status

/-- The note once the update of a row is committed. -/
def committed : RoundNote → RoundNote
  | .paid ids b _ _ => .polling (ids.filter (· ≠ b)) none
  | n => n

end RoundNote

/-! ## The protocols -/

/-- The error of a `_FAILED` marker can be stored: a string, or none. -/
def writable (rt : Runtime) (text : Text) : Bool :=
  match Json.loads text with
  | some data =>
      !truthy rt data || match dictGet data "error" .null with
        | .ok error => (errorColumn error).isOk
        | .error _ => true
  | none => true

theorem writable_column {rt : Runtime} {text : Text} {data error : Json.Value}
    (stored : writable rt text = true) (decoded : Json.loads text = some data)
    (told : truthy rt data = true) (isError : dictGet data "error" .null = .ok error) :
    ∃ column, errorColumn error = .ok column := by
  simp only [writable, decoded, told, isError, Bool.not_true, Bool.false_or] at stored
  cases found : errorColumn error with
  | ok column => exact ⟨column, rfl⟩
  | error exc =>
      rw [found] at stored
      cases stored

/-- The rows of a list that have a job. -/
def attachedIds (rows : List Batch) : List String :=
  (rows.filter fun row => row.ray_job_id.isSome).map (·.id)

/-- A handler attaches the job to its own row, and then counts it; it never gives a batch up. -/
def handlers : Protocol Op Op.Res HandlerNote where
  asks
    | .inc (.batch_submitted_total model), n => n = .owes model
    | .inc (.batch_terminal_total _ _), _ => False
    | .commit (.insert new), n => n = .idle ∧ new.status = "queued"
    | .commit (.update b changes), n => (∃ model, n = .waiting b model) ∧
        (changes.status = none → ∃ id, changes.ray_job_id = some (some id))
    | _, n => n.Clear
  done
    | .get_batch b, n, row, n' => n' = n ∧ ∀ model, n = .waiting b model →
        ∃ r, row = some r ∧ r.ray_job_id = none ∧ isActive r.status = true
    | .commit (.insert new), _, _, n' => n' = .waiting new.id new.model
    | .commit (.update b changes), n, _, n' =>
        changes.status = none ∧ ∃ model, n = .waiting b model ∧ n' = .owes model
    | .inc (.batch_submitted_total _), _, _, n' => n' = .idle
    | _, n, _, n' => n' = n
  refused op _ := op.fallible = true
  lost
    | .inc _, _, _ => False
    | .commit (.insert new), _, n' => n' = .waiting new.id new.model
    | .commit (.update _ _), _, _ => False
    | _, n, n' => n' = n

/-- A sweep counts the end of an active row that it has loaded, and then commits it; that
commit is not refused. -/
def rounds (rt : Runtime) : Protocol Op Op.Res RoundNote where
  asks
    | .inc (.batch_submitted_total _), _ => False
    | .inc (.batch_terminal_total model status), n => status ∈ TERMINAL_STATUSES ∧
        ∃ ids b, n = .polling ids (some (b, model)) ∧ b ∈ ids
    | .commit (.insert _), _ => False
    | .commit (.update b changes), n => changes.ray_job_id = none ∧
        ((∃ ids model status, n = .paid ids b model status ∧ changes.status = some status) ∨
          ∃ ids loaded, n = .polling ids loaded ∧ b ∈ ids ∧
            ∀ status, changes.status = some status → isActive status = true)
    | .get_batch b, n => ∃ ids loaded, n = .polling ids loaded ∧ b ∈ ids
    | .list_active_batches, n => n = .starting
    | _, n => n.Clear
  done
    | .list_active_batches, _, rows, n' =>
        (rows.map (·.id)).Nodup ∧ n' = .polling (attachedIds rows) none
    | .get_batch b, n, row, n' => ∃ ids loaded r, n = .polling ids loaded ∧ row = some r ∧
        isActive r.status = true ∧ n' = .polling ids (some (b, r.model))
    | .inc (.batch_terminal_total model status), n, _, n' => ∃ ids b,
        n = .polling ids (some (b, model)) ∧ n' = .paid ids b model status
    | .commit (.update _ _), n, _, n' => n' = n.committed
    | .dir _ (.read_text .failed), n, text, n' => n' = n ∧ writable rt text = true
    | _, n, _, n' => n' = n
  refused op n := op.fallible = true ∧ n.Clear
  lost
    | .inc _, _, _ => False
    | .commit (.update _ _), n, n' => n' = n.committed
    | _, n, n' => n' = n

/-! ## Sessions -/

section Sessions

variable {Note α : Type} {T : Protocol Op Op.Res Note} {n : Note} {Q : α → Note → Prop}
variable {Y : Note → Prop}

/-- A neutral operation, and then the rest. -/
theorem ask_follows {op : Op} {f : op.Res → Proc α} (idle : T.Neutral op n) (clear : Y n)
    (rest : ∀ a, T.Follows (f a) n Q fun _ n' => Y n') :
    T.Follows ((ask op).bind f) n Q fun _ n' => Y n' := by
  refine .bind (.ask_neutral (Q := fun _ n' => n' = n) idle (fun _ => rfl) fun _ => clear) ?_
  rintro a n' rfl
  exact rest a

/-- The commit at the end of a session. -/
def Commits (T : Protocol Op Op.Res Note) (Q : α → Note → Prop) (Y : Note → Prop) (said : Pending × α)
    (n : Note) : Prop :=
  T.Follows (ask (.commit said.1)) n (fun _ n' => Q said.2 n') fun (_ : PyException) n' => Y n'

theorem session_follows {body : Proc (Pending × α)} (opens : T.Neutral .open_session n) (clear : Y n)
    (rolls : ∀ n', Y n' → T.Neutral .rollback n')
    (follows : T.Follows body n (Commits T Q Y) fun _ n' => Y n') :
    T.Follows (session_scope body) n Q fun _ n' => Y n' := by
  refine ask_follows opens clear fun _ => ?_
  refine .catching (Y := fun _ n' => Y n') ?_ fun e n' left => ?_
  · exact .bind follows fun said n' commits => .bind commits fun _ n'' post => post
  · by_cases caught : e.isinstance .exception = true
    · rw [if_pos caught]
      exact ask_follows (rolls n' left) left fun _ => left
    · rw [if_neg caught]
      exact left

end Sessions

/-- Operations that neither read nor write the table, nor count a batch. -/
def plainOp : Op → Bool
  | .inc (.rayjob_submit_failures_total _) | .commit .clean => true
  | .inc _ | .commit _ | .get_batch _ | .list_active_batches => false
  | _ => true

/-! ## Handlers -/

section Handlers

variable {α : Type} {n : HandlerNote}

theorem handler_plain {op : Op} (plain : plainOp op = true) (clear : n.Clear) :
    handlers.Neutral op n := by
  cases op with
  | inc counter =>
      cases counter with
      | rayjob_submit_failures_total => exact ⟨clear, fun _ _ same => same, fun _ lost => lost.elim⟩
      | batch_submitted_total | batch_terminal_total => cases plain
  | commit pending =>
      cases pending with
      | clean => exact ⟨clear, fun _ _ same => same, fun _ same => same⟩
      | insert | update => cases plain
  | get_batch | list_active_batches => cases plain
  | _ => exact ⟨clear, fun _ _ same => same, fun _ same => same⟩

theorem handler_get (b : String) (clear : n.Clear) : handlers.Neutral (.get_batch b) n :=
  ⟨clear, fun _ _ answered => answered.1, fun _ same => same⟩

/-- A program of such operations. -/
theorem handler_neutral {p : Proc α} (plain : p.Uses fun op => plainOp op = true) (clear : n.Clear)
    {Q : α → HandlerNote → Prop} {X : PyException → HandlerNote → Prop} (post : ∀ a, Q a n)
    (failed : ∀ e, X e n) : handlers.Follows p n Q X :=
  .neutral (plain.mono fun _ plain => handler_plain plain clear) post failed

/-- One such operation, and then the rest. -/
theorem handler_ask {op : Op} (plain : plainOp op = true) (clear : n.Clear)
    {f : op.Res → Proc α} {Q : α → HandlerNote → Prop} (rest : ∀ a, handlers.Follows (f a) n Q
      fun _ n' => n'.Clear) : handlers.Follows ((ask op).bind f) n Q fun _ n' => n'.Clear :=
  ask_follows (handler_plain plain clear) clear rest

theorem handler_session {body : Proc (Pending × α)} {Q : α → HandlerNote → Prop} (clear : n.Clear)
    (follows : handlers.Follows body n (Commits handlers Q HandlerNote.Clear)
      fun _ n' => n'.Clear) : handlers.Follows (session_scope body) n Q fun _ n' => n'.Clear :=
  session_follows (handler_plain rfl clear) clear (fun _ clear => handler_plain rfl clear) follows

theorem waiting_clear (b model : String) : (HandlerNote.waiting b model).Clear := nofun

theorem idle_clear : HandlerNote.idle.Clear := nofun

/-- A session that only reads. -/
theorem read_follows (b : String) (clear : n.Clear) :
    handlers.Follows (session_scope ((ask (.get_batch b)).bind fun row => .ret (.clean, row))) n
      (fun _ n' => n' = n) fun _ n' => n'.Clear :=
  handler_session clear (ask_follows (handler_get b clear) clear fun _ =>
    .ask_neutral (handler_plain rfl clear) (fun _ => rfl) fun _ => clear)

theorem insert_follows (new : NewBatch) (queued : new.status = "queued") :
    handlers.Follows (session_scope (.ret (.insert new, ()))) .idle
      (fun _ n' => n' = .waiting new.id new.model) fun _ n' => n'.Clear := by
  refine handler_session idle_clear ?_
  show handlers.Follows (ask (.commit (.insert new))) _ _ _
  refine .ask ⟨rfl, queued⟩ (fun _ _ same => same) (fun _ _ => idle_clear) fun _ same _ => ?_
  exact same ▸ waiting_clear _ _

/-- The job id is committed on a row that has none. -/
theorem attach_follows (b model id : String) :
    handlers.Follows (_attach_ray_job_id b id) (.waiting b model)
      (fun _ n' => n' = .owes model) fun _ n' => n'.Clear := by
  refine handler_session (waiting_clear b model) ?_
  refine .bind (R := fun row n' => n' = .waiting b model ∧
    ∃ r, row = some r ∧ r.ray_job_id = none ∧ isActive r.status = true) ?_ ?_
  · refine .ask (waiting_clear b model) (fun _ _ answered => ?_) (fun _ _ => waiting_clear b model)
      fun _ same _ => ?_
    · exact ⟨answered.1, answered.2 model rfl⟩
    · exact same ▸ waiting_clear b model
  · rintro - - ⟨rfl, r, rfl, unattached, -⟩
    have attaches : (r.changes { r with ray_job_id := some id }).ray_job_id = some (some id) := by
      simp [Batch.changes, changed, unattached]
    show handlers.Follows (ask (.commit (.update b _))) _ _ _
    refine .ask ⟨⟨model, rfl⟩, fun _ => ⟨id, attaches⟩⟩ (fun _ _ answered => ?_)
      (fun _ _ => waiting_clear b model) fun _ lost => lost.elim
    obtain ⟨-, model', same, becomes⟩ := answered
    cases same
    exact becomes

/-- A batch is not given up; refusing that leaves it waiting. -/
theorem mark_failed_follows (b model error : String) :
    handlers.Follows (_mark_failed b error) (.waiting b model)
      (fun _ _ => False) fun _ n' => n'.Clear := by
  refine handler_session (waiting_clear b model) ?_
  refine .bind (R := fun row n' => n' = .waiting b model ∧
    ∃ r, row = some r ∧ r.ray_job_id = none ∧ isActive r.status = true) ?_ ?_
  · refine .ask (waiting_clear b model) (fun _ _ answered => ?_) (fun _ _ => waiting_clear b model)
      fun _ same _ => ?_
    · exact ⟨answered.1, answered.2 model rfl⟩
    · exact same ▸ waiting_clear b model
  · rintro - - ⟨rfl, r, rfl, -, active⟩
    refine handler_ask rfl (waiting_clear b model) fun now => ?_
    have ends : (r.changes { r with
        status := "failed", error := some error, completed_at := some now }).status ≠ none := by
      have other : "failed" ≠ r.status := fun same => by rw [← same] at active; cases active
      simp [Batch.changes, changed, other]
    show handlers.Follows (ask (.commit (.update b _))) _ _ _
    refine .ask ⟨⟨model, rfl⟩, fun none => absurd none ends⟩ (fun _ _ answered => ?_)
      (fun _ _ => waiting_clear b model) fun _ lost => lost.elim
    exact absurd answered.1 ends

theorem lift_follows (clear : n.Clear) (x : Except PyException α) :
    handlers.Follows (lift x) n (fun _ n' => n'.Clear) fun _ n' => n'.Clear := by
  cases x <;> exact clear

theorem submit_follows (entrypoint : String) (env : Option RuntimeEnv) (clear : n.Clear) :
    handlers.Follows (submit_batch entrypoint env) n (fun _ n' => n' = n) fun _ n' => n' = n := by
  refine handler_neutral (.bind (.ask rfl) fun ready => ?_) clear (fun _ => rfl) fun _ => rfl
  cases ready with
  | false => trivial
  | true => exact .bind (.ask rfl) fun _ => .bind (.ask rfl) fun _ => trivial

theorem submit_failed_follows (b model : String) (exc : PyException) :
    handlers.Follows (submitFailed b exc) (.waiting b model) (fun _ _ => False)
      fun _ n' => n'.Clear := by
  refine handler_ask rfl (waiting_clear b model) fun _ => ?_
  refine handler_ask rfl (waiting_clear b model) fun _ => ?_
  exact .bind (mark_failed_follows b model _) fun _ _ never => never.elim

/-- The submission is counted right after its id is committed. -/
theorem attach_submitted_follows (request : CreateBatchRequest) (b id : String) :
    handlers.Follows (attachSubmitted request b id) (.waiting b request.model)
      (fun _ n' => n'.Clear) fun _ n' => n'.Clear := by
  refine .bind (attach_follows b request.model id) ?_
  rintro - - rfl
  refine .bind (R := fun _ n' => n' = .idle) ?_ ?_
  · exact .ask rfl (fun _ _ same => same) (fun fallible => nomatch fallible) fun _ lost => lost.elim
  · rintro - - rfl
    refine .bind (read_follows b idle_clear) ?_
    rintro refreshed - rfl
    cases refreshed with
    | none => exact handler_ask rfl idle_clear fun _ => idle_clear
    | some row => exact lift_follows idle_clear _

theorem submit_inserted_follows (settings : Settings) (request : CreateBatchRequest) (b : String) :
    handlers.Follows (submitInserted settings request b) (.waiting b request.model)
      (fun _ n' => n'.Clear) fun _ n' => n'.Clear := by
  refine .bind (R := fun _ n' => n' = .waiting b request.model) ?_ ?_
  · refine .catching (submit_follows _ _ (waiting_clear b request.model)) ?_
    rintro exc - rfl
    split
    · exact (submit_failed_follows b request.model exc).weaken (fun _ _ never => never.elim)
        fun _ _ clear => clear
    · exact waiting_clear b request.model
  · rintro id - rfl
    exact attach_submitted_follows request b id

/-- **A handler** keeps to its protocol. -/
theorem create_batch_follows (settings : Settings) (request : CreateBatchRequest) :
    handlers.Follows (create_batch settings request) .idle
      (fun _ n' => n'.Clear) fun _ n' => n'.Clear := by
  rw [create_batch_eq]
  refine handler_ask rfl idle_clear fun u => handler_ask rfl idle_clear fun _ =>
    handler_ask rfl idle_clear fun _ => handler_ask rfl idle_clear fun _ => ?_
  refine .bind (R := fun _ n' => n' = .idle) (handler_neutral ?_ idle_clear (fun _ => rfl) fun _ =>
    idle_clear) ?_
  · have appends : ∀ c, Program.Uses (fun op => plainOp op = true)
        (ask (.dir (newBatchId u) (.append .input [c]))) := fun _ => Program.Uses.ask rfl
    exact .forEach (fun _ => .forEach appends _) _
  · rintro - - rfl
    refine .bind (insert_follows _ rfl) ?_
    rintro - - rfl
    exact submit_inserted_follows settings request _

theorem batch_status_follows (b : String) :
    handlers.Follows (get_batch_status b) .idle (fun _ n' => n'.Clear) fun _ n' => n'.Clear := by
  refine .bind (read_follows b idle_clear) ?_
  rintro row - rfl
  cases row with
  | none => exact idle_clear
  | some row => exact lift_follows idle_clear _

end Handlers

/-! ## Sweeps -/

section Rounds

variable {rt : Runtime} {α : Type} {n : RoundNote} {ids : List String}

theorem round_plain {op : Op} (plain : plainOp op = true) (clear : n.Clear) :
    (rounds rt).Neutral op n := by
  cases op with
  | inc counter =>
      cases counter with
      | rayjob_submit_failures_total => exact ⟨clear, fun _ _ same => same, fun _ lost => lost.elim⟩
      | batch_submitted_total | batch_terminal_total => cases plain
  | commit pending =>
      cases pending with
      | clean => exact ⟨clear, fun _ _ same => same, fun _ same => same⟩
      | insert | update => cases plain
  | get_batch | list_active_batches => cases plain
  | dir b d =>
      cases d with
      | read_text f =>
          cases f with
          | failed => exact ⟨clear, fun _ _ answered => answered.1, fun _ same => same⟩
          | input | results | success =>
              exact ⟨clear, fun _ _ same => same, fun _ same => same⟩
      | _ => exact ⟨clear, fun _ _ same => same, fun _ same => same⟩
  | _ => exact ⟨clear, fun _ _ same => same, fun _ same => same⟩

theorem round_ask {op : Op} (plain : plainOp op = true) (clear : n.Clear) {f : op.Res → Proc α}
    {Q : α → RoundNote → Prop}
    (rest : ∀ a, (rounds rt).Follows (f a) n Q fun _ n' => n'.Clear) :
    (rounds rt).Follows ((ask op).bind f) n Q fun _ n' => n'.Clear :=
  ask_follows (round_plain plain clear) clear rest

theorem polling_clear (ids : List String) (loaded : Option (String × String)) :
    (RoundNote.polling ids loaded).Clear := nofun

/-- These rows are still to be polled. -/
def Ahead (ids : List String) (n : RoundNote) : Prop :=
  ∃ ids' loaded, n = .polling ids' loaded ∧ ∀ b ∈ ids, b ∈ ids'

theorem Ahead.clear (ahead : Ahead ids n) : n.Clear := by
  obtain ⟨ids', loaded, rfl, -⟩ := ahead
  exact polling_clear ids' loaded

/-- Rows other than this one are still to be polled. -/
def Beyond (ids : List String) (b : String) (n : RoundNote) : Prop :=
  Ahead (ids.filter (· ≠ b)) n

theorem Ahead.beyond (ahead : Ahead ids n) (b : String) : Beyond ids b n := by
  obtain ⟨ids', loaded, rfl, more⟩ := ahead
  exact ⟨ids', loaded, rfl, fun b' mem => more b' (List.mem_of_mem_filter mem)⟩

variable {b : String}

/-- A session of a sweep on a row that is still to be polled. -/
theorem round_session {f : Option Batch → Proc (Pending × Unit)} (ahead : Ahead ids n)
    (mem : b ∈ ids)
    (rest : ∀ r ids', isActive r.status = true → (∀ b' ∈ ids, b' ∈ ids') →
      (rounds rt).Follows (f (some r)) (.polling ids' (some (b, r.model)))
        (Commits (rounds rt) (fun _ n' => Beyond ids b n') (Beyond ids b))
        fun _ n' => Beyond ids b n') :
    (rounds rt).Follows (session_scope ((ask (.get_batch b)).bind f)) n
      (fun _ n' => Beyond ids b n') fun _ n' => Beyond ids b n' := by
  have beyond := ahead.beyond b
  refine session_follows (round_plain rfl ahead.clear) beyond
    (fun _ beyond => round_plain rfl (Ahead.clear beyond)) ?_
  obtain ⟨ids', loaded, rfl, more⟩ := ahead
  refine .bind (R := fun row n' => ∃ r, row = some r ∧ isActive r.status = true ∧
    n' = .polling ids' (some (b, r.model))) ?_ ?_
  · refine .ask ⟨ids', loaded, rfl, more b mem⟩ (fun row n' answered => ?_) (fun _ _ => beyond)
      fun n' same _ => ?_
    · obtain ⟨_, _, r, same, isRow, active, becomes⟩ := answered
      cases same
      exact ⟨r, isRow, active, becomes⟩
    · exact same ▸ beyond
  · rintro - - ⟨r, rfl, active, rfl⟩
    exact rest r ids' active more

theorem beyond_polling {ids' : List String} {loaded : Option (String × String)}
    (more : ∀ b' ∈ ids, b' ∈ ids') : Beyond ids b (.polling ids' loaded) :=
  ⟨ids', loaded, rfl, fun b' mem => more b' (List.mem_of_mem_filter mem)⟩

theorem beyond_committed {ids' : List String} {model status : String}
    (more : ∀ b' ∈ ids, b' ∈ ids') :
    Beyond ids b (RoundNote.paid ids' b model status).committed := by
  refine ⟨_, _, rfl, fun b' mem => ?_⟩
  obtain ⟨mem, other⟩ := List.mem_filter.1 mem
  exact List.mem_filter.2 ⟨more b' mem, other⟩

theorem update_status_follows (ahead : Ahead ids n) (mem : b ∈ ids) {new_status : String}
    (active : isActive new_status = true) :
    (rounds rt).Follows (_update_status_only b new_status) n (fun _ n' => Beyond ids b n')
      fun _ n' => Beyond ids b n' := by
  refine round_session ahead mem fun r ids' _ more => ?_
  have beyond : Beyond ids b (.polling ids' (some (b, r.model))) := beyond_polling more
  show (rounds rt).Follows (if r.status = new_status then _ else _) _ _ _
  split
  · exact .ask_neutral (round_plain rfl (polling_clear _ _)) (fun _ => beyond) fun _ => beyond
  · have job : (r.changes { r with status := new_status }).ray_job_id = none := changed_self _
    show (rounds rt).Follows (ask (.commit (.update b _))) _ _ _
    refine .ask ⟨job, .inr ⟨ids', _, rfl, more b mem, ?_⟩⟩ (fun _ _ same => same ▸ beyond)
      (fun _ _ => beyond) fun _ same _ => same ▸ beyond
    intro status isChanged
    have same : new_status = status := by
      simp only [Batch.changes, changed] at isChanged
      exact (Option.ite_none_left_eq_some.1 isChanged).2 |> Option.some.inj
    exact same ▸ active

/-- The end of a row is counted, and then committed. -/
theorem count_follows {r row : Batch} {ids' : List String} {status : String}
    (active : isActive r.status = true) (more : ∀ b' ∈ ids, b' ∈ ids')
    (terminal : status ∈ TERMINAL_STATUSES) (ends : row.status = status)
    (job : row.ray_job_id = r.ray_job_id) :
    (rounds rt).Follows (ask (.commit (.update b (r.changes row)))) (.paid ids' b r.model status)
      (fun _ n' => Beyond ids b n') fun (_ : PyException) n' => Beyond ids b n' := by
  have other : row.status ≠ r.status := by
    intro same
    rw [← same, ends, not_active_of_terminal terminal] at active
    cases active
  have status_changes : (r.changes row).status = some status := by
    show (if row.status = r.status then none else some row.status) = some status
    rw [if_neg other, ends]
  have job_stays : (r.changes row).ray_job_id = none := by
    simp [Batch.changes, job]
  refine .ask ⟨job_stays, .inl ⟨ids', r.model, status, rfl, status_changes⟩⟩
    (fun _ _ same => same ▸ beyond_committed more) (fun may => ?_)
    fun _ same _ => same ▸ beyond_committed more
  exact absurd rfl (may.2 ids' b r.model status)

/-- Counting the end of the row that was loaded. -/
theorem bump_follows {r : Batch} {ids' : List String} {status : String} (mem : b ∈ ids)
    (more : ∀ b' ∈ ids, b' ∈ ids') (terminal : status ∈ TERMINAL_STATUSES) :
    (rounds rt).Follows (ask (.inc (.batch_terminal_total r.model status)))
      (.polling ids' (some (b, r.model))) (fun _ n' => n' = .paid ids' b r.model status)
      fun (_ : PyException) n' => Beyond ids b n' := by
  refine .ask ⟨terminal, ids', b, rfl, more b mem⟩ (fun _ n' answered => ?_)
    (fun may => nomatch may.1) fun _ lost => lost.elim
  obtain ⟨_, _, same, becomes⟩ := answered
  cases same
  exact becomes

theorem round_lift (x : Except PyException α) {Y : RoundNote → Prop} (holds : Y n) :
    (rounds rt).Follows (lift x) n (fun _ n' => n' = n) fun _ n' => Y n' := by
  cases x with
  | ok a => rfl
  | error e => exact holds

theorem apply_success_follows (ahead : Ahead ids n) (mem : b ∈ ids) (marker : Json.Value)
    (completed_at : Nat) :
    (rounds rt).Follows (_apply_success rt b marker completed_at) n
      (fun _ n' => Beyond ids b n') fun _ n' => Beyond ids b n' := by
  refine round_session ahead mem fun r ids' active more => ?_
  have beyond : Beyond ids b (.polling ids' (some (b, r.model))) := beyond_polling more
  refine .bind (round_lift _ beyond) ?_
  rintro completed_count - rfl
  refine .bind (round_lift _ beyond) ?_
  rintro failed_count - rfl
  refine .bind (bump_follows mem more (by decide)) ?_
  rintro - - rfl
  exact count_follows active more (by decide) rfl rfl

theorem apply_terminal_follows (ahead : Ahead ids n) (mem : b ∈ ids) {new_status : String}
    (terminal : new_status ∈ TERMINAL_STATUSES) {error : Json.Value}
    (writable : ∃ column, errorColumn error = .ok column) (completed_at : Nat) :
    (rounds rt).Follows (_apply_terminal b new_status error completed_at) n
      (fun _ n' => Beyond ids b n') fun _ n' => Beyond ids b n' := by
  obtain ⟨column, isColumn⟩ := writable
  refine round_session ahead mem fun r ids' active more => ?_
  refine .bind (bump_follows mem more terminal) ?_
  rintro - - rfl
  rw [isColumn]
  exact count_follows active more terminal rfl rfl

theorem ahead_neutral {p : Proc α} (ahead : Ahead ids n)
    (plain : p.Uses fun op => plainOp op = true) :
    (rounds rt).Follows p n (fun _ n' => Ahead ids n') fun _ n' => Ahead ids n' :=
  .neutral (plain.mono fun _ plain => round_plain plain ahead.clear) (fun _ => ahead)
    fun _ => ahead

theorem status_follows (ahead : Ahead ids n) (id : String) :
    (rounds rt).Follows (get_status rt id) n
      (fun new_status n' => Ahead ids n' ∧ ∃ raw, new_status = map_status rt raw)
      fun _ n' => Ahead ids n' := by
  refine ask_follows (round_plain rfl ahead.clear) ahead fun ready => ?_
  cases ready with
  | false => exact ahead
  | true => exact ask_follows (round_plain rfl ahead.clear) ahead fun raw => ⟨ahead, raw, rfl⟩

/-- Reading a `_FAILED` marker yields an error that can be stored. -/
theorem failure_marker_follows (ahead : Ahead ids n) :
    (rounds rt).Follows (read_failure_marker b) n
      (fun marker n' => Ahead ids n' ∧ ∀ error, truthy rt marker = true →
        dictGet marker "error" .null = .ok error → ∃ column, errorColumn error = .ok column)
      fun _ n' => Ahead ids n' := by
  refine ask_follows (round_plain rfl ahead.clear) ahead fun present => ?_
  cases present with
  | false => exact ⟨ahead, nofun⟩
  | true =>
      refine .bind (R := fun text n' => n' = n ∧ writable rt text = true) ?_ ?_
      · exact .ask ahead.clear (fun _ _ answered => answered) (fun _ _ => ahead)
          fun _ same _ => same ▸ ahead
      · rintro text n' ⟨rfl, stored⟩
        cases decoded : Json.loads text with
        | none => exact ahead
        | some data =>
            exact ⟨ahead, fun error told isError => writable_column stored decoded told isError⟩

theorem poll_terminal_follows (ahead : Ahead ids n) (mem : b ∈ ids) (new_status : String)
    (input_count now_utc : Nat) :
    (rounds rt).Follows (_poll_terminal rt b new_status input_count now_utc) n
      (fun _ n' => Beyond ids b n') fun _ n' => Beyond ids b n' := by
  unfold _poll_terminal
  split
  · refine .bind ((ahead_neutral ahead (p := read_success_marker b) ?_).weaken (fun _ _ later => later)
      fun _ _ later => later.beyond b) fun marker n' later => ?_
    · refine .bind (.ask rfl) fun present => ?_
      cases present with
      | false => trivial
      | true =>
          refine .bind (.ask rfl) fun text => ?_
          cases Json.loads text <;> trivial
    · cases marker <;> exact apply_success_follows later mem _ _
  split
  · refine .bind ((failure_marker_follows ahead).weaken (fun _ _ later => later)
      fun _ _ later => later.beyond b) ?_
    rintro marker n' ⟨later, writable⟩
    show (rounds rt).Follows (if truthy rt marker then _ else _) _ _ _
    split
    · rename_i told
      cases isError : dictGet marker "error" .null with
      | error exc => exact later.beyond b
      | ok error => exact apply_terminal_follows later mem (by decide) (writable error told isError) _
    · exact apply_terminal_follows later mem (by decide) ⟨_, rfl⟩ _
  · exact apply_terminal_follows ahead mem (by decide) ⟨none, rfl⟩ _

theorem poll_one_follows (ahead : Ahead ids n) (mem : b ∈ ids) (id : String) (input_count : Nat) :
    (rounds rt).Follows (_poll_one rt b id input_count) n (fun _ n' => Beyond ids b n')
      fun _ n' => Beyond ids b n' := by
  refine .bind ((status_follows ahead id).weaken (fun _ _ later => later)
    fun _ _ later => later.beyond b) ?_
  rintro new_status n' ⟨later, raw, rfl⟩
  split
  · rename_i running
    refine update_status_follows later mem ?_
    obtain ⟨status, literal⟩ := map_status_literal rt raw
    rw [literal] at running ⊢
    by_contra inactive
    exact running ((terminal_iff status).2 (by simpa using inactive))
  · refine .bind (R := fun _ n'' => n'' = n') (.ask_neutral (round_plain rfl later.clear)
      (fun _ => rfl) fun _ => later.beyond b) ?_
    rintro now n'' rfl
    exact poll_terminal_follows later mem _ _ _

theorem attachedIds_cons (row : Batch) (rest : List Batch) :
    attachedIds (row :: rest) =
      if row.ray_job_id.isSome then row.id :: attachedIds rest else attachedIds rest := by
  unfold attachedIds
  by_cases attached : row.ray_job_id.isSome = true <;> simp [attached]

theorem attachedIds_subset {rows : List Batch} {b : String} (mem : b ∈ attachedIds rows) :
    b ∈ rows.map (·.id) :=
  (List.filter_sublist.map _).subset mem

/-- The rest of a sweep lies ahead once its first row is polled. -/
theorem Beyond.rest {row : Batch} {rest : List Batch} (fresh : row.id ∉ rest.map (·.id))
    (attached : row.ray_job_id.isSome = true)
    (beyond : Beyond (attachedIds (row :: rest)) row.id n) : Ahead (attachedIds rest) n := by
  obtain ⟨ids', loaded, rfl, more⟩ := beyond
  refine ⟨ids', loaded, rfl, fun b mem => more b (List.mem_filter.2 ⟨?_, ?_⟩)⟩
  · rw [attachedIds_cons, if_pos attached]
    exact List.mem_cons_of_mem _ mem
  · have other : b ≠ row.id := by
      rintro rfl
      exact fresh (attachedIds_subset mem)
    simpa using other

theorem poll_row_follows {row : Batch} {rest : List Batch} (fresh : row.id ∉ rest.map (·.id))
    (ahead : Ahead (attachedIds (row :: rest)) n) :
    (rounds rt).Follows (pollRow rt row) n (fun _ n' => Ahead (attachedIds rest) n')
      fun _ n' => n'.Clear := by
  unfold pollRow
  cases isId : row.ray_job_id with
  | none =>
      rw [attachedIds_cons, isId] at ahead
      exact ahead
  | some id =>
      have attached : row.ray_job_id.isSome = true := by rw [isId]; rfl
      have mem : row.id ∈ attachedIds (row :: rest) := by
        rw [attachedIds_cons, if_pos attached]
        exact List.mem_cons_self
      refine .catching ((poll_one_follows ahead mem id _).weaken
        (fun _ _ beyond => beyond.rest fresh attached)
        fun _ _ beyond => beyond.rest fresh attached) fun exc n' later => ?_
      split
      · exact .ask_neutral (round_plain rfl later.clear) (fun _ => later) fun _ => later.clear
      · exact later.clear

/-- **A sweep** keeps to its protocol. -/
theorem round_follows (rt : Runtime) :
    (rounds rt).Follows (pollerRound rt) .starting (fun _ n' => n'.Clear)
      fun _ n' => n'.Clear := by
  have starting : RoundNote.starting.Clear := nofun
  refine .catching (Y := fun _ n' => n'.Clear) (.bind (R := fun rows n' =>
    (rows.map (·.id)).Nodup ∧ n' = .polling (attachedIds rows) none) ?_ ?_) fun exc n' clear => ?_
  · refine session_follows (round_plain rfl starting) starting
      (fun _ clear => round_plain rfl clear) ?_
    refine .bind (R := fun rows n' => (rows.map (·.id)).Nodup ∧
      n' = .polling (attachedIds rows) none) ?_ ?_
    · exact .ask rfl (fun _ _ answered => answered) (fun _ _ => starting)
        fun _ same _ => same ▸ starting
    · rintro rows n' ⟨distinct, rfl⟩
      exact .ask_neutral (round_plain rfl (polling_clear _ _)) (fun _ => ⟨distinct, rfl⟩)
        fun _ => polling_clear _ _
  · rintro rows n' ⟨distinct, rfl⟩
    show (rounds rt).Follows (if rows.isEmpty = true then _ else _) _ _ _
    split
    · exact polling_clear _ _
    · refine round_ask rfl (polling_clear _ _) fun _ => ?_
      refine (Protocol.Follows.forEach (I := fun rest n' => (rest.map (·.id)).Nodup ∧
        Ahead (attachedIds rest) n') ?_ rows _ ⟨distinct, _, _, rfl, fun _ mem => mem⟩).weaken
        (fun _ _ later => later.2.clear) fun _ _ clear => clear
      rintro row rest n' ⟨distinct, ahead⟩
      obtain ⟨fresh, distinct⟩ := List.nodup_cons.1 distinct
      exact (poll_row_follows fresh ahead).weaken (fun _ _ later => ⟨distinct, later⟩)
        fun _ _ clear => clear
  · split
    · exact clear
    split
    · exact .ask_neutral (round_plain rfl clear) (fun _ => clear) fun _ => clear
    · exact clear

end Rounds

end KubeRayBatch.Api
