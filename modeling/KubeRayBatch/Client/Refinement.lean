/-
# Client.Refinement -- the cluster keeps a ledger

Handlers, pollers, workers, Ray and the shared volume, in any interleaving, with all that may
fail and be killed in between, do together what a ledger of requests does: a request is
accepted under a new id, it runs, and it is answered in full, or fails for a reason that is
told, or is cancelled.  Everything else that happens is no step of the ledger at all.

* `Stands`: how an entry of the ledger stands in the row and the directory of its batch;
* `change_refines`: a change of a batch is a step of its entry, or none;
* `cluster_refines`: the cluster is simulated by the ledger.
-/
import KubeRayBatch.Theory.Ledger
import KubeRayBatch.Client.EndToEnd
import KubeRayBatch.Cluster.StatusReads

namespace KubeRayBatch.Client

open Theory Theory.Ledger Cluster Worker Api

set_option autoImplicit false

/-! ## The ledger of the batches -/

/-- The entry of a batch: the answers are the records of the result file, a reason is the
error that is shown. -/
abbrev BatchEntry := Entry CreateBatchRequest (List OutputRow) String

abbrev BatchBook := Book String CreateBatchRequest (List OutputRow) String

abbrev BatchPhase := Phase (List OutputRow) String

/-- A reason with something to read in it. -/
def Told (why : String) : Prop := why ≠ ""

/-- What the ledger promises: every row that Ray read is answered, and a failure is explained. -/
def batches (rd : RayData) : System BatchBook := ledger (Answers rd) Told

/-- The status that is shown in a phase. -/
def statusOf : BatchPhase → BatchStatus
  | .waiting => .queued
  | .running => .in_progress
  | .answered _ => .completed
  | .failed _ => .failed
  | .cancelled => .cancelled

theorem statusOf_over {phase : BatchPhase} : phase.Over ↔ isActive (statusOf phase).literal = false := by
  cases phase <;> simp only [Phase.Over, statusOf] <;> decide

/-! ## How an entry stands -/

variable (writer : ResultWriter)

/-- What the row and the directory say of a phase. -/
structure PhaseStands (row : Batch) (dir : Dir) (phase : BatchPhase) : Prop where
  status : row.status = (statusOf phase).literal
  answered : ∀ records, phase = .answered records → dir.file .results = some (writer.file records) ∧
    row.completed_count = completedRows records ∧ row.failed_count = failedRows records
  failed : ∀ why, phase = .failed why → row.error = some why

/-- A phase without an answer or a reason. -/
theorem PhaseStands.plain {writer : ResultWriter} {row : Batch} {dir : Dir} {phase : BatchPhase}
    (status : row.status = (statusOf phase).literal) (unanswered : ∀ records, phase ≠ .answered records)
    (unfailed : ∀ why, phase ≠ .failed why) : PhaseStands writer row dir phase :=
  ⟨status, fun records same => absurd same (unanswered records), fun why same => absurd same (unfailed why)⟩

/-- What is shared about a batch says of its entry. -/
inductive Stands (b : String) (v : View) : Option BatchEntry → Prop where
  | absent (unborn : v.row = none) : Stands b v none
  | entry {entry : BatchEntry} {row : Batch} {u : Ulid} (found : v.row = some row)
      (posted : Posted u entry.request b v.dir row) (phase : PhaseStands writer row v.dir entry.phase) :
      Stands b v (some entry)

/-- The ledger that the cluster keeps. -/
def Represents (s : State) (book : BatchBook) : Prop := ∀ b, Stands writer b (view s.world b) (book b)

variable {writer} {D : Deployment} {A : Assumed} {b : String} {now : Nat} {actor : Cluster.Actor} {v v' : View}

/-- A row is inserted in the first phase. -/
theorem inserted_queued (changed : Change D A b now actor v v') (unborn : v.row = none) {row : Batch}
    (found : v'.row = some row) : row.status = "queued" := by
  cases changed with
  | insert pid u request path =>
      cases found
      rfl
  | attach pid row job updated owned found' | mark pid row error ended updated owned found'
  | poll pid row row' found' =>
      rw [unborn] at found'
      cases found'
  | _ =>
      rw [unborn] at found
      cases found

/-! ## A change of a batch -/

section Changes

variable (alone : A.alone = true) (forward : A.forward = true) (honest : A.honest = true)
variable (spoken : A.spoken = true) (lawful : Lawful writer D.rd)

include honest lawful in
/-- The answers of a completed row are those of its result file. -/
theorem answers_of_completed {row : Batch} {u : Ulid} {request : CreateBatchRequest}
    (sound : Sound D A b now v) (found : v.row = some row) (posted : Posted u request b v.dir row)
    (completed : row.status = "completed") :
    ∃ records, Answers D.rd request records ∧ PhaseStands writer row v.dir (.answered records) := by
  obtain ⟨counts, final, isCompleted, isFailed⟩ := ((sound.row row found).shown honest).completed completed
  obtain ⟨records, file, answers, completedRows, failedRows⟩ := output_answers lawful posted final.output
  refine ⟨records, answers, completed, ?_, fun why same => by cases same⟩
  rintro _ ⟨⟩
  exact ⟨file, by rw [isCompleted, completedRows], by rw [isFailed, failedRows]⟩

include alone honest in
/-- What is over stays as it is. -/
theorem over_stays {row row' : Batch} {phase : BatchPhase} (changed : Change D A b now actor v v')
    (sound : Sound D A b now v) (found : v.row = some row) (found' : v'.row = some row')
    (stands : PhaseStands writer row v.dir phase) (ended : phase.Over) :
    PhaseStands writer row' v'.dir phase := by
  have inactive : isActive row.status = false := by
    rw [stands.status]
    exact statusOf_over.1 ended
  obtain ⟨row'', found'', frozen⟩ := changed.ended (.inl alone) found inactive
  cases found'.symm.trans found''
  refine ⟨frozen.status.trans stands.status, ?_, fun why isFailed => ?_⟩
  · rintro records rfl
    obtain ⟨file, completed, failed⟩ := stands.answered records rfl
    refine ⟨?_, frozen.completed_count.trans completed, frozen.failed_count.trans failed⟩
    -- the job that left the directory has exited
    obtain ⟨_, counts, isRow, final, -⟩ := served_of_completed sound found stands.status honest
    have other : Other A (.reader 0) actor := by
      refine ⟨?_, fun _ isPoller => by cases isPoller⟩
      rintro rfl
      cases changed
    have served := @stable_served D A b (.reader 0) (fun dir => dir = v.dir) actor now v v' other sound
      changed ⟨_, counts, isRow, final, rfl⟩
    obtain ⟨-, -, -, -, stays⟩ := served
    rw [stays]
    exact file
  · exact frozen.error.trans (stands.failed why isFailed)

/-- What goes on, goes on as it is, or starts to run. -/
theorem goes_on {row : Batch} {dir : Dir} {phase : BatchPhase} {status : BatchStatus}
    {right : List OutputRow → Prop} {told : String → Prop} (going_on : ¬phase.Over)
    (literal : row.status = status.literal) (active : status = .queued ∨ status = .in_progress)
    (behind : Behind (statusOf phase).literal status.literal) :
    ∃ next, PhaseStands writer row dir next ∧ (next = phase ∨ phase.Next right told next) := by
  cases phase with
  | answered | failed | cancelled => exact absurd trivial going_on
  | waiting =>
      rcases active with rfl | rfl
      · exact ⟨.waiting, .plain literal (by simp) (by simp), .inl rfl⟩
      · exact ⟨.running, .plain literal (by simp) (by simp), .inr .start⟩
  | running =>
      rcases active with rfl | rfl
      · exact absurd behind (by decide)
      · exact ⟨.running, .plain literal (by simp) (by simp), .inl rfl⟩

include alone forward honest spoken lawful in
/-- The phase of a batch that is not over, after a change. -/
theorem next_phase {later : Nat} {row row' : Batch} {u : Ulid} {request : CreateBatchRequest}
    {phase : BatchPhase} (changed : Change D A b now actor v v') (sound' : Sound D A b later v')
    (found : v.row = some row) (found' : v'.row = some row') (posted' : Posted u request b v'.dir row')
    (stands : PhaseStands writer row v.dir phase) (going_on : ¬phase.Over) :
    ∃ next, PhaseStands writer row' v'.dir next ∧
      (next = phase ∨ phase.Next (Answers D.rd request) Told next) := by
  have sound'' := sound'.row row' found'
  obtain ⟨status, literal⟩ := sound''.literal
  have behind := changed.behind alone forward found found'
  rw [stands.status, literal] at behind
  cases status with
  | queued => exact goes_on going_on literal (.inl rfl) behind
  | in_progress => exact goes_on going_on literal (.inr rfl) behind
  | completed =>
      obtain ⟨records, answers, stands'⟩ := answers_of_completed honest lawful sound' found' posted' literal
      exact ⟨_, stands', .inr (.answer going_on answers)⟩
  | failed =>
      obtain ⟨error, isError, told⟩ := sound''.explained alone literal
      have stands' : PhaseStands writer row' v'.dir (.failed error) := by
        refine ⟨literal, fun records same => (by cases same), ?_⟩
        rintro _ ⟨⟩
        exact isError
      exact ⟨_, stands', .inr (.fail going_on (told spoken))⟩
  | cancelled =>
      have stands' : PhaseStands writer row' v'.dir .cancelled := .plain literal (by simp) (by simp)
      exact ⟨_, stands', .inr (.cancel going_on)⟩

include alone forward honest spoken lawful in
/-- **A change** of a batch is a step of its entry, or none. -/
theorem change_refines {later : Nat} {place : Option BatchEntry} (changed : Change D A b now actor v v')
    (sound : Sound D A b now v) (sound' : Sound D A b later v') (stands : Stands writer b v place) :
    ∃ place', Stands writer b v' place' ∧ (place' = place ∨ Moves (Answers D.rd) Told place place') := by
  cases stands with
  | absent unborn =>
      cases isRow : v'.row with
      | none => exact ⟨none, .absent isRow, .inl rfl⟩
      | some row =>
          obtain ⟨u, request, posted⟩ := (sound'.row row isRow).origin
          have queued := inserted_queued changed unborn isRow
          exact ⟨some ⟨request, .waiting⟩, .entry isRow posted (.plain queued (by simp) (by simp)),
            .inr (.accept request)⟩
  | @entry entry row u found posted phase =>
      obtain ⟨row', found', kept⟩ := changed.kept found
      have posted' := posted.frame (changed.input_kept found) kept
      by_cases ended : entry.phase.Over
      · exact ⟨some entry, .entry found' posted' (over_stays alone honest changed sound found found' phase ended),
          .inl rfl⟩
      obtain ⟨next, stands', same | may⟩ :=
        next_phase alone forward honest spoken lawful changed sound' found found' posted' phase ended
      · exact ⟨some entry, .entry found' posted' (same ▸ stands'), .inl rfl⟩
      · exact ⟨some ⟨entry.request, next⟩, .entry found' posted' stands', .inr (.advance may)⟩

end Changes

/-! ## The simulation -/

/-- The cluster as a transition system. -/
def cluster (D : Deployment) (A : Assumed) : System State where
  init := fun s => s = .init
  step := fun s s' => ∃ e, permitted D A e s = true ∧ step D e s = some s'

section Runs

variable {s s' : State}

theorem cluster_reachable : (cluster D A).Reachable s ↔ Reachable D A s := by
  constructor
  · refine System.invariant ?_ ?_
    · rintro _ rfl
      exact .init
    · rintro t t' reachable ⟨e, may, stepped⟩
      exact reachable.step may stepped
  · intro reachable
    induction reachable with
    | init => exact ⟨.init, rfl, .refl _⟩
    | step before may stepped ih => exact ih.steps (.one ⟨_, may, stepped⟩)

theorem steps_of_later (later : Later D A s s') : (cluster D A).Steps s s' := by
  induction later with
  | refl => exact .refl s
  | step before may stepped ih => exact ih.tail ⟨_, may, stepped⟩

/-- **A step of the cluster** is a step of the ledger, or none. -/
theorem step_refines (alone : A.alone = true) (forward : A.forward = true) (honest : A.honest = true)
    (spoken : A.spoken = true) (lawful : Lawful writer D.rd) {book : BatchBook} (safe : SysInv D A s)
    (represents : Represents writer s book) {e : Step} (may : permitted D A e s = true)
    (stepped : step D e s = some s') :
    ∃ book', (batches D.rd).Steps book book' ∧ Represents writer s' book' := by
  obtain ⟨safe', actor, b, moved⟩ := safe.step may stepped
  cases moved with
  | same views =>
      refine ⟨book, .refl book, fun b' => ?_⟩
      rw [views b']
      exact represents b'
  | change touches changed =>
      obtain ⟨place, stands, moved⟩ := change_refines alone forward honest spoken lawful changed
        (safe.world.sound b) (safe'.world.sound b) (represents b)
      have represents' : Represents writer s' (Function.update book b place) := by
        intro b'
        obtain rfl | elsewhere := eq_or_ne b' b
        · rw [Function.update_self]
          exact stands
        · rw [Function.update_of_ne elsewhere, touches.others b' elsewhere]
          exact represents b'
      rcases moved with same | moved
      · rw [same, Function.update_eq_self] at represents'
        exact ⟨book, .refl book, represents'⟩
      · exact ⟨_, .one (.entry moved), represents'⟩

theorem cluster_simulation (alone : A.alone = true) (forward : A.forward = true) (honest : A.honest = true)
    (spoken : A.spoken = true) (lawful : Lawful writer D.rd) : Simulation (cluster D A) (batches D.rd) (Represents writer) where
  start := by
    rintro _ rfl
    exact ⟨fun _ => none, rfl, fun b => .absent rfl⟩
  step := by
    rintro s s' book reachable represents ⟨e, may, stepped⟩
    have safe := reachable_inv (cluster_reachable.1 reachable)
    exact step_refines alone forward honest spoken lawful safe represents may stepped

/-- A row has its entry. -/
theorem Represents.entered {book : BatchBook} (represents : Represents writer s book) {b : String}
    {row : Batch} (found : (view s.world b).row = some row) : ∃ entry, book b = some entry := by
  have stands := represents b
  cases place : book b with
  | some entry => exact ⟨entry, rfl⟩
  | none =>
      rw [place] at stands
      cases stands with
      | absent unborn =>
          rw [unborn] at found
          cases found

/-- **What a batch is** at some time, and later. -/
theorem promises_kept (simulation : Simulation (cluster D A) (batches D.rd) (Represents writer))
    (reachable : Reachable D A s) (later : Later D A s s') {b : String} {row : Batch}
    (found : (view s.world b).row = some row) :
    ∃ entry entry', Stands writer b (view s.world b) (some entry) ∧
      Stands writer b (view s'.world b) (some entry') ∧ entry.Leads entry' ∧
        entry'.Right (Answers D.rd) Told := by
  obtain ⟨book, book', reached, represents, steps, represents'⟩ :=
    simulation.explains (cluster_reachable.2 reachable) (steps_of_later later)
  obtain ⟨entry, place⟩ := represents.entered found
  obtain ⟨entry', place', leads⟩ := keeps_entry steps place
  exact ⟨entry, entry', place ▸ represents b, place' ▸ represents' b, leads,
    right_answers (reached.steps steps) place'⟩

/-- **key theorem.** The cluster does what the ledger may do: in any interleaving, whatever fails
or is killed, each of its steps is a step of the ledger, or none.  So a batch keeps its
request and does not go back, it stays as it is once it is over, its answers are right and
its failure is explained. -/
theorem cluster_refines (alone : A.alone = true) (forward : A.forward = true) (honest : A.honest = true)
    (spoken : A.spoken = true) (lawful : Lawful writer D.rd) :
    Simulation (cluster D A) (batches D.rd) (Represents writer) ∧
      ∀ (s s' : State) (b : String) (row : Batch), Reachable D A s → Later D A s s' →
        (view s.world b).row = some row → ∃ entry entry',
          Stands writer b (view s.world b) (some entry) ∧
            Stands writer b (view s'.world b) (some entry') ∧ entry.Leads entry' ∧
              entry'.Right (Answers D.rd) Told := by
  have simulation : Simulation (cluster D A) (batches D.rd) (Represents writer) :=
    cluster_simulation alone forward honest spoken lawful
  exact ⟨simulation, fun _ _ _ _ reachable later found => promises_kept simulation reachable later found⟩

/-- The entry of a completed row, in a ledger that the cluster keeps. -/
theorem answered_entry {book : BatchBook} (reached : (batches D.rd).Reachable book)
    (represents : Represents writer s book) {b : String} {row : Batch}
    (found : (view s.world b).row = some row) (completed : row.status = "completed") :
    ∃ request records, book b = some ⟨request, .answered records⟩ ∧ Answers D.rd request records ∧
      (records.length : Int) = row.input_count := by
  obtain ⟨⟨request, here⟩, place⟩ := represents.entered found
  have stands := represents b
  rw [place] at stands
  cases stands with
  | entry found' posted phase =>
      cases found.symm.trans found'
      have status : (statusOf here).literal = "completed" := phase.status.symm.trans completed
      have right := right_answers reached place
      cases here with
      | waiting | running | failed | cancelled => simp [statusOf, BatchStatus.literal] at status
      | answered records =>
          have answers : Answers D.rd request records := right
          refine ⟨request, records, place, answers, ?_⟩
          rw [posted.input_count, answers.length]

/-- Three prompts are answered; then another batch is posted and runs. -/
theorem cluster_refines_completed : ∃ s s' book b,
    Reachable sampleDeployment .all s ∧ Later sampleDeployment .all s s' ∧
    (batches sampleDeployment.rd).Reachable book ∧ Represents dumpsWriter s book ∧
    (∃ request records, book b = some ⟨request, .answered records⟩ ∧ records.length = 3 ∧
      (records.map (·.input)).mergeSort (fun row later => position row ≤ position later) =
        inputRows request.input) ∧
    ∃ entry entry', Stands dumpsWriter b (view s.world b) (some entry) ∧
      Stands dumpsWriter b (view s'.world b) (some entry') ∧ entry.Leads entry' ∧
        entry'.Right (Answers sampleDeployment.rd) Told := by
  obtain ⟨s, s', -, row, reachable, later, own, completed, input_count, -⟩ := goingOn_played
  have refines := @cluster_refines dumpsWriter sampleDeployment .all rfl rfl rfl rfl
    (lawful_answering picky_isolated)
  obtain ⟨book, reached, represents⟩ := refines.1.reachable (cluster_reachable.2 reachable)
  have found := (reachable_inv reachable).world.view_of_mem (Table.get_mem own)
  obtain ⟨request, records, entry, answers, length⟩ := answered_entry reached represents found completed
  refine ⟨s, s', book, row.id, reachable, later, reached, represents, ⟨request, records, entry, ?_, ?_⟩, ?_⟩
  · rw [input_count] at length
    exact Int.ofNat.inj length
  · exact answers.ordered (answering_asText pickyActor request.input)
  · exact refines.2 s s' row.id row reachable later found

end Runs

end KubeRayBatch.Client
