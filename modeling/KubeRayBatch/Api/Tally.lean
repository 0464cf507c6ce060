/-
# Api.Tally -- the counters against the table, in runs of the API process

The counters of submitted and of ended batches agree with the table where the process is
not led away from it.  It is led away where `_mark_failed` commits an end, which nothing
counts; where an end is counted and its commit is refused, or the error of the marker
cannot be stored; and where the commit of a job id succeeds and the handler is told that
it failed.  `Task.fine` excludes just these events.

* `request_step`, `round_step`, `step_kept`: every other event keeps the books;
* `run_kept`: so does a run;
* `counters_agree`: so the counters agree whenever no task is between the two books.
-/
import KubeRayBatch.Api.Books
import KubeRayBatch.Api.Privacy

namespace KubeRayBatch.Api

open Theory Cluster

set_option autoImplicit false

/-! ## Events that keep the counters right -/

/-- The update ends the batch. -/
def Changes.ends (changes : Changes) : Bool :=
  changes.status.any fun status => status ∈ TERMINAL_STATUSES

namespace Task

/-- The task has returned or raised. -/
def ended : Task → Bool
  | request p => p.ending.isSome
  | round p => p.ending.isSome

/-- The task is between the two books: a job id is committed and not counted, or an end is
counted and not committed. -/
def midway : Task → Bool
  | request (.call (.inc (.batch_submitted_total _)) _) => true
  | round (.call (.commit (.update _ changes)) _) => changes.ends
  | _ => false

/-- The event does not part the counters from the table. -/
def fine (rt : Runtime) (event : Event) (w : World) : Task → Bool
  | request (.call (.commit (.update _ changes)) _) =>
      match event.fate with
      -- `_mark_failed` does not commit, and `_attach_ray_job_id` learns of its commit
      | .done => changes.status.isNone
      | .refused _ => true
      | .lost _ => false
  | round (.call (.commit (.update _ changes)) _) =>
      match event.fate with
      -- `_apply_success` and `_apply_terminal` commit what they have counted
      | .refused _ => !changes.ends
      | _ => true
  | round (.call (.dir b (.read_text .failed)) _) =>
      match event.fate, (w.dirs b).file .failed with
      | .done, some text => writable rt text
      | _, _ => true
  | _ => true

/-- A task that has ended is not between the books. -/
theorem midway_of_ended {task : Task} (isEnded : task.ended = true) : task.midway = false := by
  cases task with
  | request p => cases p <;> first | rfl | cases isEnded
  | round p => cases p <;> first | rfl | cases isEnded

end Task

namespace Service

/-- The move is fine, of whichever task it is. -/
def fine (rt : Runtime) : Move → Service → Bool
  | .act pid event, s => ((s.tasks[pid]?).map (Task.fine rt event s.world)).getD true
  | _, _ => true

/-- The poller begins a round once it has ended the last one. -/
def inTurn : Move → Service → Bool
  | .sweep, s => s.tasks.all fun
      | .request _ => true
      | .round p => (Task.round p).ended
  | _, _ => true

/-- Every move of the run is as it should be in the state it is made in. -/
def along (settings : Settings) (rt : Runtime) (rd : RayData) (check : Move → Service → Bool) :
    List Move → Service → Bool
  | [], _ => true
  | move :: moves, s =>
      check move s && match step settings rt rd move s with
        | some s' => along settings rt rd check moves s'
        | none => true

theorem along_cons {settings : Settings} {rt : Runtime} {rd : RayData}
    {check : Move → Service → Bool} {move : Move} {moves : List Move} {s s' : Service}
    (checked : along settings rt rd check (move :: moves) s = true)
    (stepped : step settings rt rd move s = some s') :
    check move s = true ∧ along settings rt rd check moves s' = true := by
  simp only [along, stepped, Bool.and_eq_true] at checked
  exact checked

end Service

/-! ## What one event of a task does -/

section Events

variable {rt : Runtime} {rd : RayData} {pid : Nat} {w w' : World} {stances : List Stance}

/-- The books of the world, with the notes of the tasks. -/
def booksOf (w : World) (stances : List Stance) : Books := ⟨w.table, w.increments, stances⟩

/-- Only counters that are asked for are bumped. -/
theorem exec_increments {op : Op} (notInc : ∀ counter, op ≠ .inc counter) {c : Choice} {a : op.Res}
    (executed : exec rd pid op c w = some (a, w')) : w'.increments = w.increments := by
  cases op
  case inc counter => exact absurd rfl (notInc counter)
  case ulid => rw [(ulid_exec rd pid executed).2]
  case submit_job entrypoint env => rw [(submit_exec rd pid entrypoint env executed).2.2]
  case commit pending =>
    obtain ⟨table, -, rfl⟩ := commit_exec rd pid pending executed
    rfl
  case dir =>
    obtain ⟨d, -, rfl⟩ := dir_exec rd pid executed
    rfl
  case time | format_exc | client_ready =>
    cases c <;> cases executed
    rfl
  case list_active_batches =>
    cases c with
    | order rows =>
        obtain ⟨-, same⟩ := Option.ite_none_right_eq_some.1 executed
        cases same
        rfl
    | _ => cases executed
  case get_job_status id =>
    obtain ⟨job, -, same⟩ := Option.map_eq_some_iff.1 executed
    cases same
    rfl
  all_goals
    cases executed
    rfl

/-- Operations that write in one of the books. -/
def writes : Op → Bool
  | .commit _ | .inc _ => true
  | _ => false

/-- Any other operation. -/
theorem audited_calm (audited : Audited (booksOf w stances)) {op : Op} {c : Choice} {a : op.Res}
    (executed : exec rd pid op c w = some (a, w')) (calm : writes op = false) :
    Audited (booksOf w' stances) := by
  have notCommit : ∀ pending, op ≠ .commit pending := by
    rintro pending rfl
    cases calm
  have notInc : ∀ counter, op ≠ .inc counter := by
    rintro counter rfl
    cases calm
  unfold booksOf
  rw [exec_table rd pid notCommit executed, exec_increments notInc executed]
  exact audited

theorem set_same {st : Stance} {i : Nat} (here : stances[i]? = some st) :
    stances.set i st = stances := by
  obtain ⟨inBounds, rfl⟩ := List.getElem?_eq_some_iff.1 here
  exact List.set_getElem_self inBounds

/-- Counting a failed submission. -/
theorem audited_failure (audited : Audited (booksOf w stances)) {reason : String} {c : Choice}
    {a : (Op.inc (.rayjob_submit_failures_total reason)).Res}
    (executed : exec rd pid (.inc (.rayjob_submit_failures_total reason)) c w = some (a, w')) :
    Audited (booksOf w' stances) := by
  cases executed
  exact audited.counts (same_counts_failure _ reason)

theorem audited_clean (audited : Audited (booksOf w stances)) {c : Choice}
    {a : (Op.commit .clean).Res} (executed : exec rd pid (.commit .clean) c w = some (a, w')) :
    Audited (booksOf w' stances) := by
  cases executed
  exact audited

/-! ### Handlers -/

variable {n : HandlerNote} {i : Nat}

/-- An operation of a handler that is performed and answered. -/
theorem handler_done {op : Op} {next : Except PyException op.Res → Proc BatchObject}
    {event : Event} {a : op.Res} (here : stances[i]? = some (.request n))
    (audited : Audited (booksOf w stances)) (asks : handlers.asks op n) (fate : event.fate = .done)
    (fine : (Task.request (.call op next)).fine rt event w = true)
    (executed : exec rd pid op event.choice w = some (a, w')) :
    ∃ n', handlers.done op n a n' ∧ Audited (booksOf w' (stances.set i (.request n'))) := by
  have stays := set_same here
  cases op with
  | inc counter =>
      cases counter with
      | batch_submitted_total model =>
          obtain rfl : n = .owes model := asks
          cases executed
          exact ⟨.idle, rfl, audited_submitted audited here⟩
      | batch_terminal_total => exact asks.elim
      | rayjob_submit_failures_total reason =>
          exact ⟨n, rfl, by rw [stays]; exact audited_failure audited executed⟩
  | commit pending =>
      obtain ⟨table, committed, rfl⟩ := commit_exec rd pid pending executed
      cases pending with
      | clean => exact ⟨n, rfl, by rw [stays]; exact audited_clean audited executed⟩
      | insert new =>
          obtain ⟨rfl, queued⟩ := asks
          exact ⟨.waiting new.id new.model, rfl, audited_insert audited queued here committed⟩
      | update b changes =>
          obtain ⟨⟨model, rfl⟩, attaches⟩ := asks
          have none : changes.status = none := by
            simp only [Task.fine, fate] at fine
            exact Option.isNone_iff_eq_none.1 fine
          obtain ⟨id, job⟩ := attaches none
          exact ⟨.owes model, ⟨none, model, rfl, rfl⟩,
            audited_attach audited job none here committed⟩
  | get_batch b =>
      have same := audited_calm audited executed rfl
      cases executed
      refine ⟨n, ⟨rfl, ?_⟩, by rw [stays]; exact same⟩
      rintro model rfl
      obtain ⟨row, found, -, unattached, active⟩ := audited.meets i _ here
      exact ⟨row, found, Option.not_isSome_iff_eq_none.1 (by simp [unattached]), active⟩
  | _ =>
      have same := audited_calm audited executed rfl
      exact ⟨n, rfl, by rw [stays]; exact same⟩

/-- An operation of a handler that is performed, with its answer lost. -/
theorem handler_lost {op : Op} {next : Except PyException op.Res → Proc BatchObject}
    {event : Event} {a : op.Res} {e : PyException} (here : stances[i]? = some (.request n))
    (audited : Audited (booksOf w stances)) (asks : handlers.asks op n)
    (fate : event.fate = .lost e) (fallible : op.fallible = true)
    (fine : (Task.request (.call op next)).fine rt event w = true)
    (executed : exec rd pid op event.choice w = some (a, w')) :
    ∃ n', handlers.lost op n n' ∧ Audited (booksOf w' (stances.set i (.request n'))) := by
  have stays := set_same here
  cases op with
  | inc counter => cases fallible
  | commit pending =>
      obtain ⟨table, committed, rfl⟩ := commit_exec rd pid pending executed
      cases pending with
      | clean => exact ⟨n, rfl, by rw [stays]; exact audited_clean audited executed⟩
      | insert new =>
          obtain ⟨rfl, queued⟩ := asks
          exact ⟨.waiting new.id new.model, rfl, audited_insert audited queued here committed⟩
      | update b changes =>
          simp only [Task.fine, fate] at fine
          cases fine
  | _ =>
      have same := audited_calm audited executed rfl
      exact ⟨n, rfl, by rw [stays]; exact same⟩

/-- With a submission to count, a handler asks for its counter. -/
theorem owes_asks {op : Op} {model : String} (asks : handlers.asks op (.owes model))
    (next : Except PyException op.Res → Proc BatchObject) :
    (Task.request (.call op next)).midway = true := by
  cases op with
  | inc counter =>
      cases counter with
      | batch_submitted_total => rfl
      | batch_terminal_total => exact asks.elim
      | rayjob_submit_failures_total => exact absurd rfl (asks model)
  | commit pending =>
      cases pending with
      | clean => exact absurd rfl (asks model)
      | insert => cases asks.1
      | update =>
          obtain ⟨⟨model', same⟩, -⟩ := asks
          cases same
  | _ => exact absurd rfl (asks model)

/-- **An event of a handler** keeps the books. -/
theorem request_step {p p' : Proc BatchObject} {event : Event}
    (follows : handlers.Follows p n (fun _ n' => n'.Clear) fun _ n' => n'.Clear)
    (here : stances[i]? = some (.request n)) (audited : Audited (booksOf w stances))
    (fine : (Task.request p).fine rt event w = true)
    (stepped : Program.step (machine rd pid) p event w = some (p', w')) :
    ∃ n', handlers.Follows p' n' (fun _ n' => n'.Clear) (fun _ n' => n'.Clear) ∧
      Audited (booksOf w' (stances.set i (.request n'))) := by
  refine follows.step (R := fun n w => Audited (booksOf w (stances.set i (.request n)))) stepped
    (by rw [set_same here]; exact audited) ?_ ?_ ?_
  · rintro op next a rfl fate asks executed
    exact handler_done here audited asks fate fine executed
  · rintro op next e - - - fallible
    exact fallible
  · rintro op next a e rfl fate asks fallible executed
    exact handler_lost here audited asks fate fallible fine executed

/-! ### Sweeps -/

variable {n : RoundNote}

/-- Neither the table nor a debt changes with the notes of a sweep on rows that are live. -/
theorem round_still {n' : RoundNote} (here : stances[i]? = some (.round n))
    (audited : Audited (booksOf w stances)) (clear : n.Clear) (clear' : n'.Clear)
    (own : (Stance.round n').Meets w.table) :
    Audited (booksOf w (stances.set i (.round n'))) := by
  have unpaid : ∀ {n : RoundNote}, n.Clear → ∀ model status,
      (Stance.round n).paid model status = false := by
    intro n clear model status
    cases n with
    | starting | polling => rfl
    | paid ids b model status => exact absurd rfl (clear ids b model status)
  refine audited.still here own ?_ (fun _ _ => ⟨n, rfl⟩) (fun _ => rfl) (fun model status => ?_)
    (.refl _)
  · intro b model same
    cases same
  · rw [unpaid clear, unpaid clear']

/-- The rows that a sweep is to poll are live. -/
theorem attached_live {table : Table} (keyed : table.Keyed) {rows : List Batch}
    (listed : rows.Perm table.active) {b : String} (mem : b ∈ attachedIds rows) :
    ∃ model, table.Live b model true := by
  obtain ⟨row, inRows, rfl⟩ := List.mem_map.1 mem
  obtain ⟨inRows, attached⟩ := List.mem_filter.1 inRows
  obtain ⟨inTable, active⟩ := List.mem_filter.1 (listed.mem_iff.1 inRows)
  exact ⟨row.model, row, keyed.get_of_mem inTable, rfl, attached, active⟩

theorem listed_nodup {table : Table} (keyed : table.Keyed) {rows : List Batch}
    (listed : rows.Perm table.active) : (rows.map (·.id)).Nodup :=
  (listed.map _).nodup_iff.2 (keyed.sublist (List.filter_sublist.map _))

/-- A commit of a sweep that reaches the table. -/
theorem round_commit {b : String} {changes : Changes} {table : Table}
    (here : stances[i]? = some (.round n)) (audited : Audited (booksOf w stances))
    (asks : (rounds rt).asks (.commit (.update b changes)) n)
    (committed : Table.commit w.clock (.update b changes) w.table = some table) :
    Audited ⟨table, w.increments, stances.set i (.round n.committed)⟩ := by
  rcases asks with ⟨job, ⟨ids, model, status, rfl, ends⟩ | ⟨ids, loaded, rfl, mem, active⟩⟩
  · exact audited_ended audited job ends here committed
  · exact audited_updated audited job active here mem committed

/-- A sweep loads a row that it is to poll. -/
theorem round_get {b : String} {c : Choice} {row : Option Batch}
    (here : stances[i]? = some (.round n)) (audited : Audited (booksOf w stances))
    (asks : (rounds rt).asks (.get_batch b) n)
    (executed : exec rd pid (.get_batch b) c w = some (row, w')) :
    ∃ n', (rounds rt).done (.get_batch b) n row n' ∧
      Audited (booksOf w' (stances.set i (.round n'))) := by
  obtain ⟨ids, loaded, rfl, mem⟩ := asks
  cases executed
  obtain ⟨live, -⟩ := audited.meets i _ here
  obtain ⟨model, row, found, rfl, attached, active⟩ := live b mem
  refine ⟨.polling ids (some (b, row.model)), ⟨ids, loaded, row, rfl, found, active, rfl⟩, ?_⟩
  refine round_still here audited (polling_clear _ _) (polling_clear _ _) ⟨live, ?_⟩
  intro b' model' same mem'
  cases same
  exact ⟨row, found, rfl, attached, active⟩

/-- A sweep lists the rows that it is to poll. -/
theorem round_list {c : Choice} {rows : List Batch} (here : stances[i]? = some (.round n))
    (audited : Audited (booksOf w stances)) (asks : (rounds rt).asks .list_active_batches n)
    (executed : exec rd pid .list_active_batches c w = some (rows, w')) :
    ∃ n', (rounds rt).done .list_active_batches n rows n' ∧
      Audited (booksOf w' (stances.set i (.round n'))) := by
  obtain rfl : n = .starting := asks
  obtain ⟨listed, rfl⟩ : rows.Perm w.table.active ∧ w' = w := by
    cases c with
    | order order =>
        obtain ⟨isPerm, same⟩ := Option.ite_none_right_eq_some.1 executed
        cases same
        exact ⟨List.isPerm_iff.1 isPerm, rfl⟩
    | _ => cases executed
  refine ⟨.polling (attachedIds rows) none, ⟨listed_nodup audited.keyed listed, rfl⟩, ?_⟩
  refine round_still here audited ?_ (polling_clear _ _)
    ⟨fun b mem => attached_live audited.keyed listed mem, ?_⟩
  · intro ids b model status same
    cases same
  · intro b model same
    cases same

/-- An operation of a sweep that is performed and answered. -/
theorem round_done {op : Op} {next : Except PyException op.Res → Proc Unit}
    {event : Event} {a : op.Res} (here : stances[i]? = some (.round n))
    (audited : Audited (booksOf w stances)) (asks : (rounds rt).asks op n)
    (fate : event.fate = .done) (fine : (Task.round (.call op next)).fine rt event w = true)
    (executed : exec rd pid op event.choice w = some (a, w')) :
    ∃ n', (rounds rt).done op n a n' ∧ Audited (booksOf w' (stances.set i (.round n'))) := by
  have stays := set_same here
  cases op with
  | inc counter =>
      cases counter with
      | batch_submitted_total => exact asks.elim
      | batch_terminal_total model status =>
          obtain ⟨terminal, ids, b, rfl, mem⟩ := asks
          cases executed
          exact ⟨.paid ids b model status, ⟨ids, b, rfl, rfl⟩,
            audited_terminal audited here mem terminal⟩
      | rayjob_submit_failures_total reason =>
          exact ⟨n, rfl, by rw [stays]; exact audited_failure audited executed⟩
  | commit pending =>
      obtain ⟨table, committed, rfl⟩ := commit_exec rd pid pending executed
      cases pending with
      | clean => exact ⟨n, rfl, by rw [stays]; exact audited_clean audited executed⟩
      | insert => exact asks.elim
      | update b changes => exact ⟨n.committed, rfl, round_commit (w := w) here audited asks committed⟩
  | get_batch b => exact round_get here audited asks executed
  | list_active_batches => exact round_list here audited asks executed
  | dir b d =>
      have same := audited_calm audited executed rfl
      refine ⟨n, ?_, by rw [stays]; exact same⟩
      cases d with
      | read_text f =>
          cases f with
          | failed =>
              obtain ⟨text, isText, answered⟩ := Option.map_eq_some_iff.1 executed
              cases answered
              obtain ⟨content, isContent, same'⟩ := Option.map_eq_some_iff.1 isText
              cases same'
              simp only [Task.fine, fate, isContent] at fine
              exact ⟨rfl, fine⟩
          | input | results | success => rfl
      | _ => rfl
  | _ =>
      have same := audited_calm audited executed rfl
      exact ⟨n, rfl, by rw [stays]; exact same⟩

/-- An operation of a sweep that is performed, with its answer lost. -/
theorem round_lost {op : Op} {event : Event} {a : op.Res} (here : stances[i]? = some (.round n))
    (audited : Audited (booksOf w stances)) (asks : (rounds rt).asks op n)
    (fallible : op.fallible = true) (executed : exec rd pid op event.choice w = some (a, w')) :
    ∃ n', (rounds rt).lost op n n' ∧ Audited (booksOf w' (stances.set i (.round n'))) := by
  have stays := set_same here
  cases op with
  | inc counter => cases fallible
  | commit pending =>
      obtain ⟨table, committed, rfl⟩ := commit_exec rd pid pending executed
      cases pending with
      | clean => exact ⟨n, rfl, by rw [stays]; exact audited_clean audited executed⟩
      | insert => exact asks.elim
      | update b changes => exact ⟨n.committed, rfl, round_commit (w := w) here audited asks committed⟩
  | _ =>
      have same := audited_calm audited executed rfl
      exact ⟨n, rfl, by rw [stays]; exact same⟩

/-- With an end counted, a sweep asks for its commit. -/
theorem paid_asks {op : Op} {ids : List String} {b model status : String}
    (asks : (rounds rt).asks op (.paid ids b model status)) :
    ∃ b' changes, op = .commit (.update b' changes) ∧ changes.status = some status := by
  cases op with
  | inc counter =>
      cases counter with
      | batch_submitted_total => exact asks.elim
      | batch_terminal_total model' status' =>
          obtain ⟨-, ids', b', same, -⟩ := asks
          cases same
      | rayjob_submit_failures_total => exact absurd rfl (asks ids b model status)
  | commit pending =>
      cases pending with
      | clean => exact absurd rfl (asks ids b model status)
      | insert => exact asks.elim
      | update b' changes =>
          refine ⟨b', changes, rfl, ?_⟩
          rcases asks with ⟨-, ⟨ids', model', status', same, ends⟩ | ⟨ids', loaded, same, -⟩⟩
          · cases same
            exact ends
          · cases same
  | get_batch =>
      obtain ⟨ids', loaded, same, -⟩ := asks
      cases same
  | list_active_batches => cases asks
  | _ => exact absurd rfl (asks ids b model status)

/-- **An event of a sweep** keeps the books. -/
theorem round_step {p p' : Proc Unit} {event : Event}
    (follows : (rounds rt).Follows p n (fun _ n' => n'.Clear) fun _ n' => n'.Clear)
    (here : stances[i]? = some (.round n)) (audited : Audited (booksOf w stances))
    (fine : (Task.round p).fine rt event w = true)
    (stepped : Program.step (machine rd pid) p event w = some (p', w')) :
    ∃ n', (rounds rt).Follows p' n' (fun _ n' => n'.Clear) (fun _ n' => n'.Clear) ∧
      Audited (booksOf w' (stances.set i (.round n'))) := by
  refine follows.step (R := fun n w => Audited (booksOf w (stances.set i (.round n)))) stepped
    (by rw [set_same here]; exact audited) ?_ ?_ ?_
  · rintro op next a rfl fate asks executed
    exact round_done here audited asks fate fine executed
  · rintro op next e rfl refused asks fallible
    refine ⟨fallible, ?_⟩
    rintro ids b model status rfl
    obtain ⟨b', changes, rfl, ends⟩ := paid_asks asks
    obtain ⟨-, -, -, terminal⟩ := audited.meets i _ here
    simp [Task.fine, refused, Changes.ends, ends, terminal] at fine
  · rintro op next a e rfl - asks fallible executed
    exact round_lost here audited asks fallible executed

end Events

/-! ## Runs -/

/-- The task follows its protocol from its note, until it has ended. -/
inductive Task.Stands (rt : Runtime) : Task → Stance → Prop where
  | gone {task : Task} (ended : task.ended = true) : Task.Stands rt task .gone
  | request {p : Proc BatchObject} {n : HandlerNote} (running : (Task.request p).ended = false)
      (follows : handlers.Follows p n (fun _ n' => n'.Clear) fun _ n' => n'.Clear) :
      Task.Stands rt (.request p) (.request n)
  | round {p : Proc Unit} {n : RoundNote} (running : (Task.round p).ended = false)
      (follows : (rounds rt).Follows p n (fun _ n' => n'.Clear) fun _ n' => n'.Clear) :
      Task.Stands rt (.round p) (.round n)

/-- The books of the process are kept, and each task stands by its note. -/
structure Service.Kept (rt : Runtime) (s : Service) (stances : List Stance) : Prop where
  audited : Audited (booksOf s.world stances)
  tasks : List.Forall₂ (Task.Stands rt) s.tasks stances

section Runs

variable {settings : Settings} {rt : Runtime} {rd : RayData}

/-- A task that has ended gives up its note. -/
theorem request_gone {w : World} {stances : List Stance} {i : Nat} {n : HandlerNote}
    (clear : n.Clear) (audited : Audited (booksOf w (stances.set i (.request n))))
    (inBounds : i < stances.length) : Audited (booksOf w (stances.set i .gone)) := by
  have here : (stances.set i (.request n))[i]? = some (.request n) :=
    List.getElem?_set_self inBounds
  have owed : ∀ model, Stance.gone.owes model = (Stance.request n).owes model := by
    intro model
    cases n with
    | idle | waiting => rfl
    | owes model' => exact absurd rfl (clear model')
  have given : Audited (booksOf w ((stances.set i (.request n)).set i .gone)) :=
    audited.still here trivial (fun _ _ same => nomatch same) (fun _ same => nomatch same) owed
      (fun _ _ => rfl) (.refl _)
  rwa [List.set_set] at given

theorem round_gone {w : World} {stances : List Stance} {i : Nat} {n : RoundNote}
    (clear : n.Clear) (audited : Audited (booksOf w (stances.set i (.round n))))
    (inBounds : i < stances.length) : Audited (booksOf w (stances.set i .gone)) := by
  have here : (stances.set i (.round n))[i]? = some (.round n) := List.getElem?_set_self inBounds
  have owed : ∀ model status, Stance.gone.paid model status = (Stance.round n).paid model status := by
    intro model status
    cases n with
    | starting | polling => rfl
    | paid ids b model' status' => exact absurd rfl (clear ids b model' status')
  have given : Audited (booksOf w ((stances.set i (.round n)).set i .gone)) :=
    audited.still here trivial (fun _ _ same => nomatch same) (fun _ same => nomatch same)
      (fun _ => rfl) owed (.refl _)
  rwa [List.set_set] at given

/-- An event of a task that has not ended. -/
theorem act_kept {task task' : Task} {st : Stance} {stances : List Stance} {pid : Nat}
    {event : Event} {w w' : World} (stands : task.Stands rt st) (here : stances[pid]? = some st)
    (audited : Audited (booksOf w stances)) (fine : task.fine rt event w = true)
    (stepped : task.step rd pid event w = some (task', w')) :
    ∃ st', task'.Stands rt st' ∧ Audited (booksOf w' (stances.set pid st')) := by
  obtain ⟨inBounds, -⟩ := List.getElem?_eq_some_iff.1 here
  cases stands with
  | gone ended =>
      cases task with
      | request p =>
          obtain ⟨next, performed, -⟩ := Option.map_eq_some_iff.1 stepped
          cases p with
          | ret | raise => cases performed
          | call => cases ended
      | round p =>
          obtain ⟨next, performed, -⟩ := Option.map_eq_some_iff.1 stepped
          cases p with
          | ret | raise => cases performed
          | call => cases ended
  | request running follows =>
      obtain ⟨⟨p', w₁⟩, performed, same⟩ := Option.map_eq_some_iff.1 stepped
      cases same
      obtain ⟨n', follows', audited'⟩ := request_step follows here audited fine performed
      cases p' with
      | call => exact ⟨.request n', .request rfl follows', audited'⟩
      | ret | raise => exact ⟨.gone, .gone rfl, request_gone follows' audited' inBounds⟩
  | round running follows =>
      obtain ⟨⟨p', w₁⟩, performed, same⟩ := Option.map_eq_some_iff.1 stepped
      cases same
      obtain ⟨n', follows', audited'⟩ := round_step follows here audited fine performed
      cases p' with
      | call => exact ⟨.round n', .round rfl follows', audited'⟩
      | ret | raise => exact ⟨.gone, .gone rfl, round_gone follows' audited' inBounds⟩

theorem spawn_request {s : Service} {stances : List Stance} (kept : s.Kept rt stances)
    {p : Proc BatchObject} (running : (Task.request p).ended = false)
    (follows : handlers.Follows p .idle (fun _ n' => n'.Clear) fun _ n' => n'.Clear) :
    (s.spawn (.request p)).Kept rt (stances ++ [.request .idle]) where
  audited := kept.audited.spawn trivial (fun _ _ same => nomatch same) (fun _ same => nomatch same)
    (fun _ => rfl) fun _ _ => rfl
  tasks := List.rel_append kept.tasks (.cons (.request running follows) .nil)

/-- A task that stands as a sweep has not ended. -/
theorem sweep_running {task : Task} {n : RoundNote} (stands : task.Stands rt (.round n)) :
    ∃ p, task = .round p ∧ (Task.round p).ended = false := by
  cases stands with
  | round running follows => exact ⟨_, rfl, running⟩

/-- **One move** keeps the books, if it is fine and sweeps take turns. -/
theorem step_kept {s s' : Service} {stances : List Stance} {move : Move} (kept : s.Kept rt stances)
    (turn : Service.inTurn move s = true) (fine : Service.fine rt move s = true)
    (stepped : Service.step settings rt rd move s = some s') : ∃ stances', s'.Kept rt stances' := by
  cases move with
  | post request =>
      cases stepped
      exact ⟨_, spawn_request kept rfl (create_batch_follows settings request)⟩
  | status batch_id =>
      cases stepped
      exact ⟨_, spawn_request kept rfl (batch_status_follows batch_id)⟩
  | sweep =>
      cases stepped
      -- no other task stands as a sweep, for all sweeps have ended
      have alone : ∀ (j : Nat) n', stances[j]? ≠ some (Stance.round n') := by
        intro j n' found
        obtain ⟨task, isTask, stands⟩ := forall₂_get kept.tasks.flip found
        obtain ⟨p, rfl, running⟩ := sweep_running stands
        have ended := List.all_eq_true.1 turn _ (List.mem_of_getElem? isTask)
        cases running.symm.trans ended
      have audited : Audited (booksOf s.world (stances ++ [.round .starting])) :=
        kept.audited.spawn trivial (fun _ _ same => nomatch same) (fun _ _ => alone)
          (fun _ => rfl) fun _ _ => rfl
      exact ⟨_, audited, List.rel_append kept.tasks (.cons (.round rfl (round_follows rt)) .nil)⟩
  | act pid event =>
      simp only [Service.step] at stepped
      cases found : s.tasks[pid]? with
      | none => simp [found] at stepped
      | some task =>
          simp only [found] at stepped
          obtain ⟨⟨task', w'⟩, performed, same⟩ := Option.map_eq_some_iff.1 stepped
          cases same
          obtain ⟨st, here, stands⟩ := forall₂_get kept.tasks found
          have fine : task.fine rt event s.world = true := by
            simpa [Service.fine, found] using fine
          obtain ⟨st', stands', audited'⟩ := act_kept stands here kept.audited fine performed
          exact ⟨stances.set pid st', audited', forall₂_set kept.tasks pid stands'⟩
  | put b f content =>
      obtain ⟨-, same⟩ := Option.ite_none_left_eq_some.1 stepped
      cases same
      exact ⟨stances, kept.audited, kept.tasks⟩
  | report | tick =>
      cases stepped
      exact ⟨stances, kept.audited, kept.tasks⟩

/-- **A run** of fine moves keeps the books. -/
theorem run_kept {moves : List Move} : ∀ {s s' : Service} {stances : List Stance},
    s.Kept rt stances → Service.along settings rt rd Service.inTurn moves s = true →
    Service.along settings rt rd (Service.fine rt) moves s = true →
    Service.run settings rt rd moves s = some s' → ∃ stances', s'.Kept rt stances' := by
  induction moves with
  | nil =>
      intro s s' stances kept _ _ ran
      cases ran
      exact ⟨stances, kept⟩
  | cons move moves ih =>
      intro s s' stances kept turns fine ran
      obtain ⟨s₁, stepped, ran⟩ := Option.bind_eq_some_iff.1 ran
      obtain ⟨turn, turns⟩ := Service.along_cons turns stepped
      obtain ⟨isFine, fine⟩ := Service.along_cons fine stepped
      obtain ⟨stances₁, kept₁⟩ := step_kept kept turn isFine stepped
      exact ih kept₁ turns fine ran

/-- A task that is not between the books owes nothing. -/
theorem clear_of_settled {w : World} {task : Task} {st : Stance} (stands : task.Stands rt st)
    (meets : st.Meets w.table) (settled : task.midway = false) :
    (∀ model, st.owes model = false) ∧ ∀ model status, st.paid model status = false := by
  cases stands with
  | gone => exact ⟨fun _ => rfl, fun _ _ => rfl⟩
  | @request p n running follows =>
      refine ⟨fun model => ?_, fun _ _ => rfl⟩
      cases n with
      | idle | waiting => rfl
      | owes model' =>
          cases p with
          | ret | raise => cases running
          | call op next =>
              obtain ⟨asks, -⟩ := follows
              cases settled.symm.trans (owes_asks asks next)
  | @round p n running follows =>
      refine ⟨fun _ => rfl, fun model status => ?_⟩
      cases n with
      | starting | polling => rfl
      | paid ids b model' status' =>
          cases p with
          | ret | raise => cases running
          | call op next =>
              obtain ⟨asks, -⟩ := follows
              obtain ⟨b', changes, rfl, ends⟩ := paid_asks asks
              obtain ⟨-, -, -, terminal⟩ := meets
              simp [Task.midway, Changes.ends, ends, terminal] at settled

/-- **The counters agree with the table** at every moment at which no task is between the
two, in every run from empty books in which every event is fine. -/
theorem counters_agree {w : World} (table : w.table = []) (registry : w.increments = [])
    {moves : List Move} {s : Service}
    (ran : Service.run settings rt rd moves ⟨w, []⟩ = some s)
    (turns : Service.along settings rt rd Service.inTurn moves ⟨w, []⟩ = true)
    (fine : Service.along settings rt rd (Service.fine rt) moves ⟨w, []⟩ = true)
    (settled : ∀ task ∈ s.tasks, task.midway = false) (model : String) :
    s.world.increments.count (.batch_submitted_total model) = s.world.table.submitted model ∧
      ∀ status ∈ TERMINAL_STATUSES,
        s.world.increments.count (.batch_terminal_total model status) =
          s.world.table.ended model status := by
  have start : Service.Kept rt ⟨w, []⟩ [] := by
    refine ⟨?_, .nil⟩
    show Audited ⟨w.table, w.increments, []⟩
    rw [table, registry]
    exact audited_empty
  obtain ⟨stances, audited, tasks⟩ := run_kept start turns fine ran
  have clear : ∀ st ∈ stances, (∀ model, st.owes model = false) ∧
      ∀ model status, st.paid model status = false := by
    intro st mem
    obtain ⟨i, here⟩ := List.getElem?_of_mem mem
    obtain ⟨task, isTask, stands⟩ := forall₂_get tasks.flip here
    exact clear_of_settled stands (audited.meets i st here)
      (settled task (List.mem_of_getElem? isTask))
  exact audited.agrees (fun st mem => (clear st mem).1) (fun st mem => (clear st mem).2) model

end Runs

/-! ## Two runs -/

/-- The row of a served request. -/
def servedRow : Batch :=
  { (newRow ⟨"/r"⟩ hiRequest (newBatchId sampleUlid)
      (filePath "/r" (newBatchId sampleUlid) .input)).row 0 with ray_job_id := some "raysubmit_1" }

/-- A request is served, its job succeeds, and a sweep finds that out. -/
def servedAndSwept : List Move :=
  served hiRequest 28 ++
    [.report "raysubmit_1" (.enum "SUCCEEDED"), .sweep, .act 1 ⟨.done, .go⟩,
      .act 1 ⟨.done, .order [servedRow]⟩, .act 1 ⟨.done, .go⟩, .act 1 ⟨.done, .go⟩,
      .act 1 ⟨.done, .flag true⟩] ++
    List.replicate 7 (.act 1 ⟨.done, .go⟩)

theorem counters_agree_swept : ∃ s,
    Service.run ⟨"/r"⟩ .ascii ⟨fun _ => none, fun _ _ _ => false⟩ servedAndSwept ⟨.init, []⟩ =
        some s ∧
      s.world.increments.count (.batch_submitted_total "m") = s.world.table.submitted "m" ∧
      ∀ status ∈ TERMINAL_STATUSES,
        s.world.increments.count (.batch_terminal_total "m" status) =
          s.world.table.ended "m" status := by
  let ray : RayData := ⟨fun _ => none, fun _ _ _ => false⟩
  have ends : (Service.run ⟨"/r"⟩ .ascii ray servedAndSwept ⟨.init, []⟩).map
      (fun s => s.tasks.map Task.ended) = some [true, true] := by decide +kernel
  obtain ⟨s, ran, ended⟩ := Option.map_eq_some_iff.1 ends
  have settled : ∀ task ∈ s.tasks, task.midway = false := by
    intro task mem
    have listed : task.ended ∈ [true, true] := ended ▸ List.mem_map_of_mem mem
    exact Task.midway_of_ended (by simpa using listed)
  exact ⟨s, ran, counters_agree rfl rfl ran (by decide +kernel) (by decide +kernel) settled "m"⟩

/-- A request whose submission fails: `_mark_failed` commits. -/
def failedSubmission : List Move :=
  (served hiRequest 28).take 36 ++
    [.act 0 ⟨.refused (.runtimeError "Request failed with status code 500"), .go⟩] ++
    List.replicate 6 go

theorem failed_submission_uncounted : ∃ s,
    Service.run ⟨"/r"⟩ .ascii ⟨fun _ => none, fun _ _ _ => false⟩ failedSubmission ⟨.init, []⟩ =
        some s ∧
      (∀ task ∈ s.tasks, task.ended = true) ∧
      s.world.increments.count (.batch_terminal_total "m" "failed") = 0 ∧
      s.world.table.ended "m" "failed" = 1 := by
  let ray : RayData := ⟨fun _ => none, fun _ _ _ => false⟩
  have ends : (Service.run ⟨"/r"⟩ .ascii ray failedSubmission ⟨.init, []⟩).map
      (fun s => (s.tasks.all Task.ended,
        s.world.increments.count (.batch_terminal_total "m" "failed"),
        s.world.table.ended "m" "failed")) = some (true, 0, 1) := by decide +kernel
  obtain ⟨s, ran, same⟩ := Option.map_eq_some_iff.1 ends
  obtain ⟨ended, uncounted, failed⟩ : s.tasks.all Task.ended = true ∧
      s.world.increments.count (.batch_terminal_total "m" "failed") = 0 ∧
      s.world.table.ended "m" "failed" = 1 := by
    simpa only [Prod.mk.injEq] using same
  exact ⟨s, ran, List.all_eq_true.1 ended, uncounted, failed⟩

end KubeRayBatch.Api
