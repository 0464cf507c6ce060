/-
# Cluster.ClientView -- a client never sees a batch go back

A client posts a batch, asks for its status until it is completed, and fetches the results.
Each of these requests is answered from the row as it was at some moment; what an earlier
answer showed, a later one does not take back.

* `observed_row`: what a client was shown is the object of a row that the row of the table
  succeeds;
* `Onward.looks`, `Onward.fetches`: what requests that arrive later are answered;
* `client_view`: a later status is of a later row, and is refused only if the database fails;
  after a completed one the results are there, with a line for each prompt.
-/
import KubeRayBatch.Cluster.Replies
import KubeRayBatch.Cluster.Results

namespace KubeRayBatch.Cluster

open Theory Theory.Schema Api Worker

set_option autoImplicit false

variable {D : Deployment} {A : Assumed} {lax : LaxInt} {F : FastAPI lax} {API_KEY : String} {E : PyException → Prop}
variable {s s' : Service}

/-! ## Rows over a run -/

section Rows

variable (alone : A.alone = true) (forward : A.forward = true)

include alone forward

theorem serve_succeeds (serving : Serving D A F API_KEY E s) {h : Happening}
    (may : admissible D A h s = true) (served : serve D F API_KEY h s = some s') {b : String}
    {row : Batch} (found : s.cluster.world.table.get b = some row) :
    ∃ row', s'.cluster.world.table.get b = some row' ∧ Succeeds row row' := by
  rcases serve_cluster serving.looks may served with same | ⟨e, allowed, stepped⟩
  · exact ⟨row, by rw [same, found], .refl row⟩
  · exact row_succeeds serving.reachable alone forward allowed stepped found

/-- **A row** is succeeded over a whole run. -/
theorem Onward.succeeds (serving : Serving D A F API_KEY E s) (onward : Onward D A F API_KEY E s s')
    {b : String} {row : Batch} (found : s.cluster.world.table.get b = some row) :
    ∃ row', s'.cluster.world.table.get b = some row' ∧ Succeeds row row' := by
  induction onward with
  | refl => exact ⟨row, found, .refl row⟩
  | step before may broken served ih =>
      obtain ⟨row', found', succeeds⟩ := ih
      obtain ⟨row'', found'', succeeds'⟩ :=
        serve_succeeds alone forward (before.serving serving) may served found'
      exact ⟨row'', found'', succeeds.trans succeeds'⟩

end Rows

/-! ## What a client was shown -/

/-- A row that was answered for the batch, and the row it has now succeeds it. -/
def Seen (s : Service) (b : String) (answer : Option Batch) : Prop :=
  ∀ row, answer = some row → ∃ row', s.cluster.world.table.get b = some row' ∧ Succeeds row row'

theorem seen_now (s : Service) (b : String) : Seen s b (s.cluster.world.table.get b) :=
  fun row found => ⟨row, found, .refl row⟩

theorem Seen.step (alone : A.alone = true) (forward : A.forward = true)
    (serving : Serving D A F API_KEY E s) {h : Happening} (may : admissible D A h s = true)
    (served : serve D F API_KEY h s = some s') (b : String) (answer : Option Batch)
    (seen : Seen s b answer) : Seen s' b answer := by
  intro row isRow
  obtain ⟨row', found, succeeds⟩ := seen row isRow
  obtain ⟨row'', found', succeeds'⟩ := serve_succeeds alone forward serving may served found
  exact ⟨row'', found', succeeds.trans succeeds'⟩

/-- The terms of a handler: what it loads is among `P`. -/
def postTerms (P : String → Option Batch → Prop) : Program.Terms Op Op.Res PyException where
  asks := fun _ => True
  answers := LoadsFrom P
  fails := fun _ _ => True

/-- The object of a row that was loaded for some batch. -/
def ShowsOne (P : String → Option Batch → Prop) (object : BatchObject) : Prop :=
  ∃ b row, P b (some row) ∧ _batch_row_to_object row = .ok object

section Posts

variable {P : String → Option Batch → Prop}

theorem any_obeys {α : Type} (p : Proc α) : p.Obeys (postTerms P) (fun _ => True) fun _ => True := by
  induction p with
  | ret a => trivial
  | raise e => trivial
  | call op next ih => exact ⟨trivial, fun a _ => ih _, fun e _ => ih _⟩

/-- **A handler** returns the object of a row that it has loaded. -/
theorem create_batch_shows (settings : Settings) (request : CreateBatchRequest) :
    (create_batch settings request).Obeys (postTerms P) (ShowsOne P) fun _ => True := by
  refine .bind (any_obeys _) fun batch_id _ => .bind (any_obeys _) fun _ _ => ?_
  refine .bind (any_obeys _) fun input_path _ => .bind (any_obeys _) fun _ _ => ?_
  refine .bind (any_obeys _) fun ray_job_id _ => ?_
  refine .bind (any_obeys _) fun _ _ => .bind (any_obeys _) fun _ _ => ?_
  refine .bind (R := fun row => ∀ found, row = some found → ∃ b, P b (some found)) ?_ ?_
  · refine (load_obeys (b := batch_id) (E := fun _ => True)
      (P := fun row => ∀ found, row = some found → ∃ b, P b (some found))).weaken
      (fun _ _ => trivial) ?_ (fun _ _ _ => trivial) (fun _ loaded => loaded) fun _ _ => trivial
    intro op a answered
    cases op with
    | get_batch b =>
        rintro row rfl
        exact ⟨b, answered⟩
    | _ => trivial
  · intro refreshed loaded
    cases refreshed with
    | none => exact .bind (any_obeys _) fun _ _ => trivial
    | some row =>
        obtain ⟨b, isLoaded⟩ := loaded row rfl
        show (lift (_batch_row_to_object row)).Obeys _ _ _
        cases shown : _batch_row_to_object row with
        | ok object => exact ⟨b, row, isLoaded, shown⟩
        | error e => trivial

/-- A handler that has loaded what `seen` says. -/
def Posting (seen : String → Option Batch → Prop) : Process → Prop
  | ⟨.handler _, _, program⟩ => ∀ P : String → Option Batch → Prop, (∀ b row, seen b row → P b row) →
      program.Obeys (postTerms P) (ShowsOne P) fun _ => True
  | _ => True

end Posts

/-- **Handlers and looks** have loaded what their row succeeds. -/
theorem Serving.seen (alone : A.alone = true) (forward : A.forward = true)
    (serving : Serving D A F API_KEY E s) :
    (∀ (pid : Nat) (p : Process), s.cluster.procs[pid]? = some p → Posting (Seen s) p) ∧
      Looks E (fun _ => Seen s) s.looks := by
  induction serving with
  | init => exact ⟨fun pid p found => (by cases found), .nil⟩
  | @step s s' h before may broken served ih =>
      obtain ⟨posting, looks⟩ := ih
      have wider := Seen.step alone forward before may served
      have later (p : Process) (posted : Posting (Seen s) p) : Posting (Seen s') p := by
        obtain ⟨role, alive, program⟩ := p
        cases role with
        | handler request =>
            exact fun P covers => posted P fun b row seen => covers b row (wider b row seen)
        | poller | worker | reader => trivial
      constructor
      · refine serve_processes (K := fun _ => Posting (Seen s'))
          (fun pid p found => later p (posting pid p found)) ?_ ?_ ?_ served
        · intro pid p isStart
          cases isStart with
          | handler request => exact fun P _ => create_batch_shows D.settings request
          | reader | poller | worker => trivial
        · intro pid p posted
          obtain ⟨role, alive, program⟩ := p
          cases role <;> exact posted
        · intro pid event p next w _ found alive moved
          have posted := posting pid p found
          obtain ⟨role, running, program⟩ := p
          cases role with
          | poller | worker | reader => trivial
          | handler request =>
              intro P covers
              refine Program.Obeys.step (M := machine D.rd pid)
                (posted P fun b row seen => covers b row (wider b row seen)) ?_ (fun _ _ _ _ => trivial) moved
              intro op rest a _ _ executed
              cases op with
              | get_batch b =>
                  cases executed
                  exact covers b _ (wider b _ (seen_now s b))
              | _ => trivial
      · exact serve_looks looks broken (fun _ => seen_now s) (fun _ => wider) served

/-- The object was shown to a client, who posted the batch or looked at it. -/
inductive Observed (s : Service) (object : BatchObject) : Prop where
  | posted {pid : Nat} {request : CreateBatchRequest}
      (found : s.cluster.procs[pid]? = some ⟨.handler request, true, .ret object⟩)
  | looked {i : Nat} {batch_id : String} (found : s.looks[i]? = some ⟨batch_id, .ret object⟩)

/-- **What a client was shown**: the row of the table succeeds it. -/
theorem observed_row (alone : A.alone = true) (forward : A.forward = true)
    (serving : Serving D A F API_KEY E s) {object : BatchObject} (observed : Observed s object) :
    ∃ row row', s.cluster.world.table.get object.id = some row' ∧ Succeeds row row' ∧
      _batch_row_to_object row = .ok object := by
  obtain ⟨posting, looks⟩ := serving.seen alone forward
  have found : ∃ b, Shows (Seen s b) object := by
    cases observed with
    | @posted pid request found =>
        obtain ⟨b, row, seen, shown⟩ := posting pid _ found (Seen s) fun _ _ seen => seen
        exact ⟨b, row, seen, shown⟩
    | @looked i batch_id found => exact ⟨batch_id, (looks i _ found).returned⟩
  obtain ⟨b, row, seen, shown⟩ := found
  obtain ⟨row', found, succeeds⟩ := seen row rfl
  have id : object.id = b := by
    rw [(shown_columns shown).2.1, ← succeeds.kept.id, Table.get_id found]
  exact ⟨row, row', id ▸ found, succeeds, shown⟩

/-! ## Requests that arrive later -/

/-- An answer to a request that arrived after the row was seen. -/
def Ahead (row : Batch) (answer : Option Batch) : Prop :=
  ∃ row', answer = some row' ∧ Succeeds row row' ∧ ∃ object, _batch_row_to_object row' = .ok object

/-- **Looks** that arrive later find a later row. -/
theorem Onward.looks (alone : A.alone = true) (forward : A.forward = true)
    (serving : Serving D A F API_KEY E s) (onward : Onward D A F API_KEY E s s') {b : String}
    {row : Batch} (found : s.cluster.world.table.get b = some row) :
    Looks E (fun i b' answer => s.looks.length ≤ i → b' = b → Ahead row answer) s'.looks := by
  induction onward with
  | refl =>
      intro i look isLook
      have early := (List.getElem?_eq_some_iff.1 isLook).1
      exact (serving.looks i look isLook).mono fun _ _ late => absurd early (Nat.not_lt.2 late)
  | step before may broken served ih =>
      refine serve_looks ih broken ?_ (fun _ _ _ ahead => ahead) served
      rintro i b' _ rfl
      obtain ⟨row', found', succeeds⟩ := before.succeeds alone forward serving found
      have shown := row_shown (before.serving serving).reachable alone forward found'
      exact ⟨row', found', succeeds, shown⟩

/-- The terms of a reader of a batch that is completed, and whose results are there. -/
def fetchTerms (b : String) (E : PyException → Prop) : Program.Terms Op Op.Res PyException where
  asks := fun op => ∀ b', op = .get_batch b' → b' = b
  answers := fun op a => LoadsFrom (fun _ answer => ∃ row, answer = some row ∧ row.status = "completed") op a ∧
    (Role.reader b).finds op a
  fails := fun _ e => E e

/-- **A reader** of such a batch raises only what the database or the volume does. -/
theorem streamed_results_fetches (settings : Settings) (b : String) :
    (streamed_results settings b).Obeys (fetchTerms b E) (fun _ => True) E := by
  have looks (b' : String) : (ask (.dir b' (.exists .results))).Obeys (fetchTerms b E)
      (fun present : Bool => present = true) E :=
    .ask (fun _ same => by cases same) (fun _ answered => answered.2) fun _ failed => failed
  refine .bind (R := fun _ => True) (.bind
    (R := fun answer => ∃ row, answer = some row ∧ row.status = "completed") ?_ ?_) fun response _ => ?_
  · refine (load_obeys (E := E)).weaken ?_ (fun op a answered => answered.1) (fun _ _ failed => failed)
      (fun _ loaded => loaded) fun _ failed => failed
    intro op asked b' isLoad
    subst isLoad
    simpa [lookTerms] using asked
  · rintro answer ⟨row, rfl, completed⟩
    show Program.Obeys _ _ _ (if row.status ≠ "completed" then _ else _)
    rw [if_neg (not_not.2 completed)]
    refine .bind (looks b) fun present there => ?_
    cases there
    exact trivial
  · refine .bind (looks response.batch_id) fun present there => ?_
    cases there
    exact .bind (.ask (Q := fun _ => True) (fun _ same => by cases same) (fun _ _ => trivial)
      fun _ failed => failed) fun _ _ => trivial

/-- What such a reader is answered, as long as the row is completed. -/
theorem fetch_answered (honest : A.honest = true) {b : String} {rd : RayData} {pid : Nat} {op : Op}
    {choice : Choice} {w w' : World} {a : op.Res} {row : Batch} (found : w.table.get b = some row)
    (completed : row.status = "completed") (asked : (fetchTerms b E).asks op)
    (expected : Expected A (.reader pid) op w) (executed : exec rd pid op choice w = some (a, w')) :
    (fetchTerms b E).answers op a := by
  have finds : (Role.reader b).finds op a := finds_of_expected honest expected executed
  refine ⟨?_, finds⟩
  cases op with
  | get_batch b' =>
      cases executed
      obtain rfl := asked b' rfl
      exact ⟨row, found, completed⟩
  | _ => trivial

/-- A reader of a completed batch. -/
def Fetching (b : String) (E : PyException → Prop) : Process → Prop
  | ⟨.reader b', _, program⟩ => b' = b → program.Obeys (fetchTerms b E) (fun _ => True) E
  | _ => True

/-- **Readers** that arrive after the batch was completed find its results. -/
theorem Onward.fetches (alone : A.alone = true) (forward : A.forward = true) (honest : A.honest = true)
    (serving : Serving D A F API_KEY E s) (onward : Onward D A F API_KEY E s s') {b : String}
    {row : Batch} (found : s.cluster.world.table.get b = some row) (completed : row.status = "completed") :
    ∀ (pid : Nat) (p : Process), s'.cluster.procs[pid]? = some p → s.cluster.procs.length ≤ pid →
      Fetching b E p := by
  induction onward with
  | refl =>
      intro pid p isProcess late
      exact absurd (List.getElem?_eq_some_iff.1 isProcess).1 (Nat.not_lt.2 late)
  | @step t t' h before may broken served ih =>
      have serving' := before.serving serving
      refine serve_processes (K := fun pid p => s.cluster.procs.length ≤ pid → Fetching b E p) ih
        ?_ ?_ ?_ served
      · intro pid p isStart _
        cases isStart with
        | handler | poller | worker => trivial
        | reader b' =>
            rintro rfl
            exact streamed_results_fetches D.settings b'
      · intro pid p fetching late
        have here := fetching late
        obtain ⟨role, alive, program⟩ := p
        cases role <;> exact here
      · rintro pid event p next w rfl isProcess alive moved late
        have here := ih pid p isProcess late
        have thrown := broken p isProcess
        have expected {op : Op} {rest : Except PyException op.Res → Proc p.role.Result}
            (asks : p.program = .call op rest) :=
          asked_for_present (reachable_inv serving'.reachable) isProcess alive asks
        obtain ⟨role, running, program⟩ := p
        cases role with
        | handler | poller | worker => trivial
        | reader b' =>
            rintro rfl
            refine Program.Obeys.step (M := machine D.rd pid) (here rfl) ?_ (fun _ e _ => thrown rfl e) moved
            intro op rest a asks asked executed
            obtain ⟨row', found', succeeds⟩ := before.succeeds alone forward serving found
            have frozen := succeeds.frozen (by rw [completed]; decide)
            exact fetch_answered honest found' (frozen.status.trans completed) asked (expected asks) executed

section Later

variable {first row : Batch} {object : BatchObject}

/-- A later look at a batch that was shown. -/
theorem Onward.shows (alone : A.alone = true) (forward : A.forward = true)
    (serving : Serving D A F API_KEY E s) (onward : Onward D A F API_KEY E s s')
    (found : s.cluster.world.table.get object.id = some row) (succeeds : Succeeds first row)
    (shown : _batch_row_to_object first = .ok object) {i : Nat} {program : Proc BatchObject}
    (late : s.looks.length ≤ i) (isLook : s'.looks[i]? = some ⟨object.id, program⟩) :
    (∀ object', program = .ret object' → Precedes object object') ∧
      ∀ e, program = .raise e → E e := by
  have looking := onward.looks alone forward serving found i _ isLook
  constructor
  · rintro object' rfl
    obtain ⟨row', ahead, shown'⟩ := looking.returned
    obtain ⟨row'', isRow, succeeds', -⟩ := ahead late rfl
    cases isRow
    exact shown_precedes (succeeds.trans succeeds') shown shown'
  · rintro e rfl
    rcases looking.raised with thrown | ⟨absent, -⟩ | ⟨row', ahead, unshown⟩
    · exact thrown
    · obtain ⟨row', isRow, -⟩ := absent late rfl
      cases isRow
    · obtain ⟨row'', isRow, -, object', shown'⟩ := ahead late rfl
      cases isRow
      cases shown'.symm.trans unshown

/-- A later reader of a batch that was shown completed. -/
theorem Onward.streams (alone : A.alone = true) (forward : A.forward = true)
    (honest : A.honest = true) (serving : Serving D A F API_KEY E s) (onward : Onward D A F API_KEY E s s') (found : s.cluster.world.table.get object.id = some row)
    (succeeds : Succeeds first row) (shown : _batch_row_to_object first = .ok object)
    (completed : object.status = .completed) {pid : Nat} {program : Proc (List Text)}
    (late : s.cluster.procs.length ≤ pid)
    (isReader : s'.cluster.procs[pid]? = some ⟨.reader object.id, true, program⟩) :
    (∀ (writer : ResultWriter) (lines : List Text), Lawful writer D.rd → program = .ret lines →
        lines.length = object.request_counts.total) ∧
      ∀ e, program = .raise e → E e := by
  have status : first.status = "completed" := by
    rw [(shown_columns shown).1, completed]
    rfl
  have terminal : first.status ∈ TERMINAL_STATUSES := by
    rw [status]
    decide
  have now : row.status = "completed" := (succeeds.frozen terminal).status.trans status
  constructor
  · rintro writer lines lawful rfl
    obtain ⟨row', found', succeeds'⟩ := onward.succeeds alone forward serving found
    have completed' : row'.status = "completed" :=
      ((succeeds.trans succeeds').frozen terminal).status.trans status
    have safe := reachable_inv (onward.serving serving).reachable
    have length := streamed_whole safe honest lawful isReader found' completed'
    obtain ⟨content, whole⟩ := completed_whole safe honest lawful (Table.get_mem found') completed'
    have total : object.request_counts.total = first.input_count := by
      rw [(shown_columns shown).2.2.2.2.2.1]
    have count := (succeeds.trans succeeds').kept.input_count
    have whole := whole.total
    omega
  · rintro e rfl
    exact onward.fetches alone forward honest serving found now pid _ isReader late rfl

end Later

/-- **key theorem.** What a client was shown is not taken back: a later look at the batch is
answered by an object that may follow the first, or by an exception of the database; and
if the batch was completed, a later reader streams a line for each of its prompts, or is
stopped by an exception of the database or the volume.  (Only that number of lines depends on
what Ray Data does.) -/
theorem client_view (alone : A.alone = true) (forward : A.forward = true)
    (honest : A.honest = true) (serving : Serving D A F API_KEY E s)
    {object : BatchObject} (observed : Observed s object) (onward : Onward D A F API_KEY E s s') :
    (∀ (i : Nat) (program : Proc BatchObject), s.looks.length ≤ i →
        s'.looks[i]? = some ⟨object.id, program⟩ →
          (∀ object', program = .ret object' → Precedes object object') ∧
            ∀ e, program = .raise e → E e) ∧
      (object.status = .completed → ∀ (pid : Nat) (program : Proc (List Text)),
        s.cluster.procs.length ≤ pid →
        s'.cluster.procs[pid]? = some ⟨.reader object.id, true, program⟩ →
          (∀ (writer : ResultWriter) (lines : List Text), Lawful writer D.rd → program = .ret lines →
              lines.length = object.request_counts.total) ∧
            ∀ e, program = .raise e → E e) := by
  obtain ⟨first, row, found, succeeds, shown⟩ := observed_row alone forward serving observed
  exact ⟨fun _ _ late isLook => onward.shows alone forward serving found succeeds shown late isLook,
    fun completed _ _ late isReader =>
      onward.streams alone forward honest serving found succeeds shown completed late isReader⟩

/-- What a look has returned, and of which batch. -/
def Look.shown : Look → Option (String × BatchObject)
  | ⟨batch_id, .ret object⟩ => some (batch_id, object)
  | _ => none

theorem observed_posted {pid : Nat} {object : BatchObject}
    (posted : s.cluster.procs[pid]?.bind Process.posted = some object) : Observed s object := by
  obtain ⟨p, found, returned⟩ := Option.bind_eq_some_iff.1 posted
  obtain ⟨request, rfl⟩ := posted_eq returned
  exact .posted found

theorem look_shown {look : Look} {batch_id : String} {object : BatchObject}
    (shown : look.shown = some (batch_id, object)) : look = ⟨batch_id, .ret object⟩ := by
  unfold Look.shown at shown
  split at shown
  · cases shown
    rfl
  · cases shown

/-- The service after a request that was posted, and one that looks at the batch. -/
def lookedAt (c : State) : Service :=
  ⟨c, [⟨newBatchId sampleUlid, get_batch_status (newBatchId sampleUlid)⟩],
    [⟨sampleHttp (sampleCall mixedRequest), .process 0⟩,
      ⟨sampleHttp (.status (newBatchId sampleUlid)), .look 0⟩]⟩

/-- A reader of the batch. -/
def sampleReader : Process :=
  ⟨.reader (newBatchId sampleUlid), true, streamed_results sampleSettings (newBatchId sampleUlid)⟩

/-- The scenes of such a client, played one after the other. -/
structure ClientPlayed (c c' c'' : State) (s' : Service) : Prop where
  opened : play sampleDeployment .all sunny (openingOf mixedRequest) .init = some c
  completed : play sampleDeployment .all sunny ((completionOf mixedRequest).drop 4) c = some c'
  looked : watch sampleDeployment sunny 0 3 (lookedAt c') = some s'
  fetched : play sampleDeployment .all sunny [.runs 3 1000] (s'.cluster.spawn sampleReader) = some c''

theorem client_played : ∃ (c c' c'' : State) (s' : Service) (object object' : BatchObject)
    (lines : List Text), ClientPlayed c c' c'' s' ∧
      c.procs[0]?.bind Process.posted = some object ∧ object.id = newBatchId sampleUlid ∧
      object.status = .queued ∧
      s'.looks[0]? = some ⟨newBatchId sampleUlid, .ret object'⟩ ∧ object'.status = .completed ∧
      s'.cluster.procs.length = 3 ∧
      c''.procs[3]? = some ⟨.reader (newBatchId sampleUlid), true, .ret lines⟩ := by
  have value : ((play sampleDeployment .all sunny (openingOf mixedRequest) .init).bind
      fun c => (play sampleDeployment .all sunny ((completionOf mixedRequest).drop 4) c).bind
        fun c' => (watch sampleDeployment sunny 0 3 (lookedAt c')).bind
          fun s' => (play sampleDeployment .all sunny [.runs 3 1000] (s'.cluster.spawn sampleReader)).bind
            fun c'' => (c''.procs[3]?.bind streamed).map fun p =>
              (p.1, s'.cluster.procs.length,
                (c.procs[0]?.bind Process.posted).map (fun object => (object.id, object.status)),
                (s'.looks[0]?.bind Look.shown).map fun shown => (shown.1, shown.2.status))) =
      some (newBatchId sampleUlid, 3, some (newBatchId sampleUlid, .queued),
        some (newBatchId sampleUlid, .completed)) := by
    decide +kernel
  obtain ⟨c, opened, rest⟩ := Option.bind_eq_some_iff.1 value
  obtain ⟨c', completed, rest⟩ := Option.bind_eq_some_iff.1 rest
  obtain ⟨s', looked, rest⟩ := Option.bind_eq_some_iff.1 rest
  obtain ⟨c'', fetched, rest⟩ := Option.bind_eq_some_iff.1 rest
  obtain ⟨⟨b, lines⟩, isStreamed, results⟩ := Option.map_eq_some_iff.1 rest
  obtain ⟨same, results⟩ := Prod.mk.inj results
  obtain ⟨number, results⟩ := Prod.mk.inj results
  obtain ⟨first, second⟩ := Prod.mk.inj results
  obtain ⟨object, posted, first⟩ := Option.map_eq_some_iff.1 first
  obtain ⟨⟨batch_id, object'⟩, isShown, second⟩ := Option.map_eq_some_iff.1 second
  obtain ⟨id, queued⟩ := Prod.mk.inj first
  obtain ⟨id', isCompleted⟩ := Prod.mk.inj second
  obtain ⟨look, found, isShown⟩ := Option.bind_eq_some_iff.1 isShown
  obtain ⟨p, reader, isStreamed⟩ := Option.bind_eq_some_iff.1 isStreamed
  obtain rfl : b = newBatchId sampleUlid := same
  obtain rfl : batch_id = newBatchId sampleUlid := id'
  rw [look_shown isShown] at found
  rw [streamed_eq isStreamed] at reader
  exact ⟨c, c', c'', s', object, object', lines, ⟨opened, completed, looked, fetched⟩, posted, id,
    queued, found, isCompleted, number, reader⟩

/-- A client posts a batch, looks at it when it is completed, and fetches its results. -/
theorem client_view_fetched :
    ∃ (s s' s'' : Service) (object object' : BatchObject) (lines : List Text),
      Serving sampleDeployment .all (.plain strictInt) "k" (fun _ => True) s ∧
      Onward sampleDeployment .all (.plain strictInt) "k" (fun _ => True) s s' ∧
      Onward sampleDeployment .all (.plain strictInt) "k" (fun _ => True) s' s'' ∧
      Observed s object ∧ object.status = .queued ∧ Observed s' object' ∧ object'.status = .completed ∧
      Precedes object object' ∧
      s''.cluster.procs[3]? = some ⟨.reader object'.id, true, .ret lines⟩ ∧
      lines.length = object'.request_counts.total := by
  obtain ⟨c, c', c'', s', object, object', lines, played, posted, id, queued, found, completed, number,
    reader⟩ := client_played
  -- the client posts, and looks
  have serving := sample_serving (E := fun _ => True) rfl played.opened
  have start : Onward sampleDeployment .all (.plain strictInt) "k" (fun _ => True)
      ⟨c, [], [⟨sampleHttp (sampleCall mixedRequest), .process 0⟩]⟩
      ⟨c, [], [⟨sampleHttp (sampleCall mixedRequest), .process 0⟩]⟩ := .refl
  have asked := (start.play sunny_calm rfl played.completed).asks
    (sampleHttp_front (.status (newBatchId sampleUlid)))
  have onward := asked.watch sunny_calm played.looked
  have observed : Observed ⟨c, [], [⟨sampleHttp (sampleCall mixedRequest), .process 0⟩]⟩ object :=
    observed_posted posted
  have view := client_view rfl rfl rfl serving observed onward
  have precedes := (view.1 0 _ (Nat.zero_le _) (id ▸ found)).1 object' rfl
  -- it fetches the results
  have serving' := onward.serving serving
  have id' : object'.id = newBatchId sampleUlid := (serving'.shown_row found).1
  have start' : Onward sampleDeployment .all (.plain strictInt) "k" (fun _ => True) s' s' := .refl
  have onward' := (start'.reads (sampleHttp_front (.results (newBatchId sampleUlid)))).play
    sunny_calm rfl played.fetched
  have view' := client_view rfl rfl rfl serving' (.looked found) onward'
  rw [← id'] at reader
  have length := (view'.2 completed 3 _ (Nat.le_of_eq number) reader).1 dumpsWriter lines
    (lawful_answering picky_isolated) rfl
  exact ⟨_, s', _, object, object', lines, serving, onward, onward', observed, queued, .looked found,
    completed, precedes, reader, length⟩

end KubeRayBatch.Cluster
