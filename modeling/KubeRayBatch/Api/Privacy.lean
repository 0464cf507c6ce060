/-
# Api.Privacy -- prompts stay in the input files

The API process serves `POST /v1/batches` and `GET /v1/batches/{batch_id}` and runs sweeps
of its poller, interleaved at their operations.  Workers and Ray change markers, results,
job statuses and the clock in between.

Two runs agree when they take the same moves, but for the texts of the prompts that are
posted, and for how many characters of an input file are written in between: `seen` leaves
those writes out.

* `run_twin`: runs that agree keep everything but the input files the same;
* `prompts_private`: so the logs, the table, the counters, the jobs and the responses are.
-/
import KubeRayBatch.Api.Twins
import KubeRayBatch.Cluster.View
import Mathlib.Data.List.Forall2

namespace KubeRayBatch.Api

open Theory Cluster

set_option autoImplicit false

/-! ## The API process -/

/-- What the API process runs: handlers of both requests, and rounds of the poller. -/
inductive Task where
  | request (program : Proc BatchObject)
  | round (program : Proc Unit)

/-- The world, and the tasks of the API process in it. -/
structure Service where
  world : World
  tasks : List Task

inductive Move where
  /-- `POST /v1/batches` -/
  | post (request : CreateBatchRequest)
  /-- `GET /v1/batches/{batch_id}` -/
  | status (batch_id : String)
  /-- The poller begins a round. -/
  | sweep
  | act (pid : Nat) (event : Event)
  /-- A worker writes or removes a marker or the results. -/
  | put (b : String) (f : FileName) (content : Option Text)
  /-- Ray reports a status of a job. -/
  | report (submission_id : String) (status : RayStatus)
  | tick (now : Nat)

namespace Task

def step (rd : RayData) (pid : Nat) (event : Event) (w : World) : Task → Option (Task × World)
  | request p => (Program.step (machine rd pid) p event w).map fun next => (request next.1, next.2)
  | round p => (Program.step (machine rd pid) p event w).map fun next => (round next.1, next.2)

/-- The next character of an input file is written. -/
def unseen (event : Event) : Task → Bool
  | request p => prompts.unseen p event
  | round p => prompts.unseen p event

/-- The response, once there is one. -/
def response : Task → Option (Except PyException BatchObject)
  | request p => p.ending
  | round _ => none

end Task

namespace Service

def spawn (s : Service) (task : Task) : Service := { s with tasks := s.tasks ++ [task] }

variable (settings : Settings) (rt : Runtime) (rd : RayData)

def step : Move → Service → Option Service
  | .post request, s => some (s.spawn (.request (create_batch settings request)))
  | .status batch_id, s => some (s.spawn (.request (get_batch_status batch_id)))
  | .sweep, s => some (s.spawn (.round (pollerRound rt)))
  | .act pid event, s =>
      match s.tasks[pid]? with
      | some task => (task.step rd pid event s.world).map fun next =>
          ⟨next.2, s.tasks.set pid next.1⟩
      | none => none
  | .put b f content, s =>
      if f = .input then none
      else some { s with world := s.world.setDir b ((s.world.dirs b).setFile f content) }
  | .report id status, s =>
      some { s with world := s.world.updateJob id fun job => { job with status := status } }
  | .tick now, s => some { s with world := { s.world with clock := now } }

def run : List Move → Service → Option Service
  | [], s => some s
  | move :: moves, s => (step settings rt rd move s).bind (run moves)

/-- The move writes a character of an input file. -/
def unseen : Move → Service → Bool
  | .act pid event, s => ((s.tasks[pid]?).map (Task.unseen event)).getD false
  | _, _ => false

/-- The moves of a run, without the writing of input files. -/
def seen : List Move → Service → List Move
  | [], _ => []
  | move :: moves, s =>
      match step settings rt rd move s with
      | some s' => if unseen move s then seen moves s' else move :: seen moves s'
      | none => []

end Service

/-- The same move, or a request that differs in the texts of its prompts only. -/
inductive Move.Alike : Move → Move → Prop where
  | same (move : Move) : Move.Alike move move
  | post {request request' : CreateBatchRequest} (same : SameShape request request') :
      Move.Alike (.post request) (.post request')

/-! ## Runs that agree -/

inductive Task.Twin : Task → Task → Prop where
  | request {p q : Proc BatchObject} (twin : prompts.Twin p q) : Task.Twin (.request p) (.request q)
  | round {p q : Proc Unit} (twin : prompts.Twin p q) : Task.Twin (.round p) (.round q)

/-- Everything but the input files is the same. -/
structure Service.Twin (s t : Service) : Prop where
  world : redacted s.world = redacted t.world
  tasks : List.Forall₂ Task.Twin s.tasks t.tasks

section Lists

variable {α β : Type} {R : α → β → Prop} {xs : List α} {ys : List β}

theorem forall₂_get (related : List.Forall₂ R xs ys) {i : Nat} {x : α} (at_i : xs[i]? = some x) :
    ∃ y, ys[i]? = some y ∧ R x y := by
  obtain ⟨inBounds, rfl⟩ := List.getElem?_eq_some_iff.1 at_i
  have inBounds' : i < ys.length := related.length_eq ▸ inBounds
  exact ⟨ys[i], List.getElem?_eq_getElem inBounds', related.get inBounds inBounds'⟩

theorem forall₂_set (related : List.Forall₂ R xs ys) (i : Nat) {x : α} {y : β} (here : R x y) :
    List.Forall₂ R (xs.set i x) (ys.set i y) := by
  refine List.forall₂_iff_get.2 ⟨by simp [related.length_eq], fun j inBounds inBounds' => ?_⟩
  simp only [List.get_eq_getElem, List.getElem_set]
  by_cases same : i = j
  · simp only [if_pos same]
    exact here
  · simp only [if_neg same]
    rw [List.length_set] at inBounds inBounds'
    exact related.get inBounds inBounds'

theorem forall₂_set_left (related : List.Forall₂ R xs ys) {i : Nat} {x : α} {y : β}
    (at_i : ys[i]? = some y) (here : R x y) : List.Forall₂ R (xs.set i x) ys := by
  obtain ⟨inBounds, rfl⟩ := List.getElem?_eq_some_iff.1 at_i
  have replaced := forall₂_set related i here
  rw [List.set_getElem_self] at replaced
  exact replaced

end Lists

/-! ### Steps -/

section Runs

variable {settings : Settings} {rt : Runtime} {rd : RayData}

theorem SameShape.refl (request : CreateBatchRequest) : SameShape request request := ⟨rfl, rfl, rfl⟩

/-- A change of a file other than the input, in a redacted directory. -/
theorem redacted_put {w v : World} (alike : redacted w = redacted v) (b : String) {f : FileName}
    (other : f ≠ .input) (content : Option Text) :
    redacted (w.setDir b ((w.dirs b).setFile f content)) =
      redacted (v.setDir b ((v.dirs b).setFile f content)) := by
  have swap : ∀ d : Dir, (d.setFile f content).setFile .input none =
      (d.setFile .input none).setFile f content := by
    intro d
    simp only [Dir.setFile]
    rw [Function.update_comm other]
  have here : (w.dirs b).setFile .input none = (v.dirs b).setFile .input none :=
    congrArg (fun u : World => u.dirs b) alike
  rw [redacted_setDir, redacted_setDir, alike, swap, swap, here]

theorem Task.Twin.symm {p q : Task} (twin : Task.Twin p q) : Task.Twin q p := by
  cases twin with
  | request twin => exact .request twin.symm
  | round twin => exact .round twin.symm

/-- A hidden step of a task. -/
theorem Task.Twin.unseen {pid : Nat} {p q p' : Task} {event : Event} {w w' : World}
    (twin : Task.Twin p q) (hidden : p.unseen event = true)
    (stepped : p.step rd pid event w = some (p', w')) :
    Task.Twin p' q ∧ redacted w' = redacted w := by
  cases twin with
  | request twin =>
      obtain ⟨next, performed, same⟩ := Option.map_eq_some_iff.1 stepped
      cases same
      obtain ⟨twin, kept⟩ := twin.unseen (prompts_sound rd pid) hidden performed
      exact ⟨.request twin, kept⟩
  | round twin =>
      obtain ⟨next, performed, same⟩ := Option.map_eq_some_iff.1 stepped
      cases same
      obtain ⟨twin, kept⟩ := twin.unseen (prompts_sound rd pid) hidden performed
      exact ⟨.round twin, kept⟩

/-- A step of both tasks in the same event. -/
theorem Task.Twin.seen {pid : Nat} {p q p' q' : Task} {event : Event} {w v w' v' : World}
    (twin : Task.Twin p q) (alike : redacted w = redacted v) (seen : p.unseen event ≠ true)
    (seen' : q.unseen event ≠ true) (left : p.step rd pid event w = some (p', w'))
    (right : q.step rd pid event v = some (q', v')) :
    Task.Twin p' q' ∧ redacted w' = redacted v' := by
  cases twin with
  | request twin =>
      obtain ⟨next, performed, same⟩ := Option.map_eq_some_iff.1 left
      obtain ⟨next', performed', same'⟩ := Option.map_eq_some_iff.1 right
      cases same
      cases same'
      obtain ⟨twin, kept⟩ := twin.seen (prompts_sound rd pid) alike seen seen' performed performed'
      exact ⟨.request twin, kept⟩
  | round twin =>
      obtain ⟨next, performed, same⟩ := Option.map_eq_some_iff.1 left
      obtain ⟨next', performed', same'⟩ := Option.map_eq_some_iff.1 right
      cases same
      cases same'
      obtain ⟨twin, kept⟩ := twin.seen (prompts_sound rd pid) alike seen seen' performed performed'
      exact ⟨.round twin, kept⟩

namespace Service.Twin

theorem symm {s t : Service} (twin : Service.Twin s t) : Service.Twin t s :=
  ⟨twin.world.symm, twin.tasks.flip.imp fun _ _ twin => twin.symm⟩

/-- Writing a character of an input file. -/
theorem unseen {s s' t : Service} {move : Move} (twin : Service.Twin s t)
    (hidden : Service.unseen move s = true)
    (stepped : Service.step settings rt rd move s = some s') : Service.Twin s' t := by
  cases move with
  | act pid event =>
      simp only [Service.step] at stepped
      cases found : s.tasks[pid]? with
      | none => simp [found] at stepped
      | some task =>
          simp only [found] at stepped
          obtain ⟨next, performed, same⟩ := Option.map_eq_some_iff.1 stepped
          cases same
          obtain ⟨task', found', tasks⟩ := forall₂_get twin.tasks found
          have hidden : task.unseen event = true := by simpa [Service.unseen, found] using hidden
          obtain ⟨task_twin, kept⟩ := tasks.unseen hidden performed
          exact ⟨kept.trans twin.world, forall₂_set_left twin.tasks found' task_twin⟩
  | _ => cases hidden

/-- Any other move, of both runs. -/
theorem seen {s s' t t' : Service} {move move' : Move} (twin : Service.Twin s t)
    (alike : Move.Alike move move') (seen : Service.unseen move s ≠ true)
    (seen' : Service.unseen move' t ≠ true)
    (left : Service.step settings rt rd move s = some s')
    (right : Service.step settings rt rd move' t = some t') : Service.Twin s' t' := by
  have spawned {p q : Task} (task : Task.Twin p q) : Service.Twin (s.spawn p) (t.spawn q) :=
    ⟨twin.world, List.rel_append twin.tasks (.cons task .nil)⟩
  cases alike with
  | post same =>
      cases left
      cases right
      exact spawned (.request (create_twin settings same))
  | same =>
      cases move with
      | post request =>
          cases left
          cases right
          exact spawned (.request (create_twin settings (.refl request)))
      | status batch_id =>
          cases left
          cases right
          exact spawned (.request (.same (batch_status_blind batch_id)))
      | sweep =>
          cases left
          cases right
          exact spawned (.round (.same (poller_round_blind rt)))
      | act pid event =>
          simp only [Service.step] at left right
          cases found : s.tasks[pid]? with
          | none => simp [found] at left
          | some task =>
              obtain ⟨task', found', tasks⟩ := forall₂_get twin.tasks found
              simp only [found] at left
              simp only [found'] at right
              obtain ⟨next, performed, same⟩ := Option.map_eq_some_iff.1 left
              obtain ⟨next', performed', same'⟩ := Option.map_eq_some_iff.1 right
              cases same
              cases same'
              have seen : task.unseen event ≠ true := by
                simpa [Service.unseen, found] using seen
              have seen' : task'.unseen event ≠ true := by
                simpa [Service.unseen, found'] using seen'
              obtain ⟨task_twin, world⟩ := tasks.seen twin.world seen seen' performed performed'
              exact ⟨world, forall₂_set twin.tasks pid task_twin⟩
      | put b f content =>
          obtain ⟨other, same⟩ := Option.ite_none_left_eq_some.1 left
          obtain ⟨-, same'⟩ := Option.ite_none_left_eq_some.1 right
          cases same
          cases same'
          exact ⟨redacted_put twin.world b other content, twin.tasks⟩
      | report id status =>
          cases left
          cases right
          have world := congrArg
            (World.updateJob · id fun job => { job with status := status }) twin.world
          exact ⟨world, twin.tasks⟩
      | tick now =>
          cases left
          cases right
          exact ⟨congrArg (fun w : World => { w with clock := now }) twin.world, twin.tasks⟩

end Service.Twin

/-! ### Runs -/

theorem seen_cons {move : Move} {moves : List Move} {s s' : Service}
    (stepped : Service.step settings rt rd move s = some s') :
    Service.seen settings rt rd (move :: moves) s =
      if Service.unseen move s = true then Service.seen settings rt rd moves s'
      else move :: Service.seen settings rt rd moves s' := by
  simp only [Service.seen, stepped]

/-- A run up to its next seen move, or to its end. -/
theorem run_until_seen {s : Service} (moves : List Move) : ∀ {t t' : Service}, Service.Twin s t →
    Service.run settings rt rd moves t = some t' →
    (Service.seen settings rt rd moves t = [] ∧ Service.Twin s t') ∨
      ∃ move rest t₁ t₂, Service.seen settings rt rd moves t =
          move :: Service.seen settings rt rd rest t₂ ∧
        Service.Twin s t₁ ∧ Service.unseen move t₁ ≠ true ∧
        Service.step settings rt rd move t₁ = some t₂ ∧
        Service.run settings rt rd rest t₂ = some t' := by
  induction moves with
  | nil =>
      intro t t' twin ran
      cases ran
      exact .inl ⟨rfl, twin⟩
  | cons move rest ih =>
      intro t t' twin ran
      obtain ⟨t₁, stepped, ran⟩ := Option.bind_eq_some_iff.1 ran
      rw [seen_cons stepped]
      by_cases hidden : Service.unseen move t = true
      · rw [if_pos hidden]
        exact ih (twin.symm.unseen hidden stepped).symm ran
      · rw [if_neg hidden]
        exact .inr ⟨move, rest, t, t₁, rfl, twin, hidden, stepped, ran⟩

/-- Runs that agree keep twins twins; the induction is on the moves of the first. -/
theorem run_twin (moves : List Move) : ∀ {moves' : List Move} {s s' t t' : Service},
    Service.Twin s t → Service.run settings rt rd moves s = some s' →
    Service.run settings rt rd moves' t = some t' →
    List.Forall₂ Move.Alike (Service.seen settings rt rd moves s)
      (Service.seen settings rt rd moves' t) → Service.Twin s' t' := by
  induction moves with
  | nil =>
      intro moves' s s' t t' twin ran ran' agree
      cases ran
      rcases run_until_seen moves' twin ran' with ⟨-, twin⟩ | ⟨move', rest', t₁, t₂, isSeen, -⟩
      · exact twin
      · rw [isSeen] at agree
        cases agree
  | cons move rest ih =>
      intro moves' s s' t t' twin ran ran' agree
      obtain ⟨s₁, stepped, ran⟩ := Option.bind_eq_some_iff.1 ran
      rw [seen_cons stepped] at agree
      by_cases hidden : Service.unseen move s = true
      · rw [if_pos hidden] at agree
        exact ih (twin.unseen hidden stepped) ran ran' agree
      · rw [if_neg hidden] at agree
        rcases run_until_seen moves' twin ran' with
          ⟨isSeen, -⟩ | ⟨move', rest', t₁, t₂, isSeen, twin, seen', stepped', ran'⟩
        · rw [isSeen] at agree
          cases agree
        · rw [isSeen] at agree
          cases agree with
          | cons alike later =>
              exact ih (twin.seen alike hidden seen' stepped stepped') ran ran' later

/-- **Prompts stay in the input files.**  Two runs of the API process that agree on everything
but the texts of the prompts log, store, count, submit and answer the same, and leave the same
files, but for the input files. -/
theorem prompts_private (settings : Settings) (rt : Runtime) (rd : RayData) {w v : World}
    (start : redacted w = redacted v) {moves moves' : List Move} {s t : Service}
    (ran : Service.run settings rt rd moves ⟨w, []⟩ = some s)
    (ran' : Service.run settings rt rd moves' ⟨v, []⟩ = some t)
    (agree : List.Forall₂ Move.Alike (Service.seen settings rt rd moves ⟨w, []⟩)
      (Service.seen settings rt rd moves' ⟨v, []⟩)) :
    s.world.logs = t.world.logs ∧ s.world.table = t.world.table ∧
      s.world.increments = t.world.increments ∧ s.world.jobs = t.world.jobs ∧
      s.tasks.map Task.response = t.tasks.map Task.response ∧
      ∀ b f, f ≠ .input → (s.world.dirs b).file f = (t.world.dirs b).file f := by
  obtain ⟨world, tasks⟩ := run_twin moves ⟨start, .nil⟩ ran ran' agree
  have same {γ : Type} (g : World → γ) : g (redacted s.world) = g (redacted t.world) :=
    congrArg g world
  refine ⟨same World.logs, same World.table, same World.increments, same World.jobs, ?_,
    fun b f other => ?_⟩
  · refine List.forall₂_eq_eq_eq ▸ List.forall₂_map_left_iff.2 (List.forall₂_map_right_iff.2 ?_)
    refine tasks.imp fun p q twin => ?_
    cases twin with
    | request twin => exact twin.ending
    | round twin => rfl
  · have file := same fun u => (u.dirs b).file f
    simp only [redacted, Dir.setFile_other _ _ _ _ other] at file
    exact file

end Runs

/-! ## Two runs -/

def dawnRequest : CreateBatchRequest :=
  { hiRequest with
    input := [⟨"attack at dawn", by decide, by decide⟩]
    input_min_length := by decide
    input_max_length := by decide }

def go : Move := .act 0 ⟨.done, .go⟩

/-- A request that is served to its end; its input file takes this many writes. -/
def served (request : CreateBatchRequest) (characters : Nat) : List Move :=
  [.post request, .act 0 ⟨.done, .ulid sampleUlid⟩, go, go, go] ++ List.replicate characters go ++
    [go, go, .act 0 ⟨.done, .flag true⟩, .act 0 ⟨.done, .submission "raysubmit_1"⟩] ++
    List.replicate 8 go

theorem prompts_private_dawn : ∃ s t,
    Service.run ⟨"/r"⟩ .ascii ⟨fun _ => none, fun _ _ _ => false⟩ (served hiRequest 28)
        ⟨.init, []⟩ = some s ∧
      Service.run ⟨"/r"⟩ .ascii ⟨fun _ => none, fun _ _ _ => false⟩ (served dawnRequest 40)
        ⟨.init, []⟩ = some t ∧
      s.world.logs = t.world.logs ∧
      s.tasks.map Task.response = t.tasks.map Task.response := by
  let ray : RayData := ⟨fun _ => none, fun _ _ _ => false⟩
  have ends : (Service.run ⟨"/r"⟩ .ascii ray (served hiRequest 28) ⟨.init, []⟩).isSome = true := rfl
  have ends' : (Service.run ⟨"/r"⟩ .ascii ray (served dawnRequest 40) ⟨.init, []⟩).isSome = true :=
    rfl
  have seen : Service.seen ⟨"/r"⟩ .ascii ray (served hiRequest 28) ⟨.init, []⟩ =
      served hiRequest 0 := rfl
  have seen' : Service.seen ⟨"/r"⟩ .ascii ray (served dawnRequest 40) ⟨.init, []⟩ =
      served dawnRequest 0 := rfl
  obtain ⟨s, ran⟩ := Option.isSome_iff_exists.1 ends
  obtain ⟨t, ran'⟩ := Option.isSome_iff_exists.1 ends'
  have agree : List.Forall₂ Move.Alike (served hiRequest 0) (served dawnRequest 0) :=
    .cons (.post ⟨rfl, rfl, rfl⟩) (List.forall₂_same.2 fun move _ => .same move)
  rw [← seen, ← seen'] at agree
  obtain ⟨logs, -, -, -, responses, -⟩ := prompts_private ⟨"/r"⟩ .ascii ray rfl ran ran' agree
  exact ⟨s, t, ran, ran', logs, responses⟩

end KubeRayBatch.Api
