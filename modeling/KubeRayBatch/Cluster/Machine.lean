/-
# Cluster.Machine -- any number of handlers, pollers, workers and readers

A state is the shared world and the processes, each in the middle of its program.
`step` is one step of the system: a process performs (or is refused, or loses the
answer of) its next operation, is killed, or is started; a poller begins another round;
Ray starts a job, notices its exit, or reports another status; time passes.  `permitted`
says which steps the assumptions about a run leave open.

* `SysInv.step`: every permitted step keeps the invariant of the cluster, and every
  process in its outline;
* `reachable_inv`: so they hold in every reachable state.
-/
import KubeRayBatch.Theory.Entries
import KubeRayBatch.Cluster.Handler
import KubeRayBatch.Cluster.Sweep
import KubeRayBatch.Cluster.RunningJob
import KubeRayBatch.Cluster.Reader

namespace KubeRayBatch.Cluster

open Theory Api Worker

set_option autoImplicit false

/-! ## Processes -/

inductive Role where
  | handler (request : CreateBatchRequest)
  | poller
  | worker (submission_id : String)
  | reader (batch_id : String)

def Role.Result : Role → Type
  | .handler _ => BatchObject
  | .poller => Unit
  | .worker _ => Nat
  | .reader _ => List Text

def Role.actor (pid : Nat) : Role → Actor
  | .handler _ => .handler pid
  | .poller => .poller pid
  | .worker _ => .worker pid
  | .reader _ => .reader pid

/-- The tasks of the API process, other than jobs of Ray. -/
def Role.isApi : Role → Bool
  | .worker _ => false
  | _ => true

structure Process where
  role : Role
  alive : Bool
  program : Proc role.Result

/-- A poller task that has not ended: it sweeps, or sleeps between two sweeps. -/
def Process.polls : Process → Bool
  | ⟨.poller, alive, .raise _⟩ => false && alive
  | ⟨.poller, alive, _⟩ => alive
  | _ => false

/-- The exit status of a worker process that has come to its end. -/
def Process.exitCode : Process → Option Nat
  | ⟨.worker _, true, .ret code⟩ => some code
  | ⟨.worker _, true, .raise _⟩ => some 1
  | _ => none

/-- The operation a process performs in an event. -/
def Process.performs (p : Process) (event : Event) : Option Op :=
  match p.program, event.fate with
  | .call _ _, .refused _ => none
  | .call op _, _ => some op
  | _, _ => none

structure State where
  world : World
  procs : List Process

namespace State

def init : State := ⟨.init, []⟩

/-- A new process; its number is the number of processes before it. -/
def spawn (s : State) (p : Process) : State := { s with procs := s.procs ++ [p] }

end State

/-! ## Steps -/

inductive Step where
  | act (pid : Nat) (event : Event)
  | kill (pid : Nat)
  /-- `POST /v1/batches` -/
  | post (request : CreateBatchRequest)
  /-- `GET /v1/batches/{batch_id}/results` -/
  | fetch (batch_id : String)
  /-- A poller task is started. -/
  | poll
  /-- A poller begins another round. -/
  | resweep (pid : Nat)
  /-- Ray starts the entrypoint of a job. -/
  | start (submission_id : String)
  /-- The process of a job ends. -/
  | exit (pid : Nat)
  /-- Ray reports a status of a job. -/
  | report (submission_id : String) (status : RayStatus)
  | tick (now : Nat)

instance (before after : String) : Decidable (Behind before after) :=
  inferInstanceAs (Decidable (_ ∨ _))

section Machine

variable (D : Deployment) (A : Assumed)

def step : Step → State → Option State
  | .act pid event, s =>
      match s.procs[pid]? with
      | some p =>
          if p.alive then
            (Program.step (machine D.rd pid) p.program event s.world).map fun next =>
              ⟨next.2, s.procs.set pid { p with program := next.1 }⟩
          else none
      | none => none
  | .kill pid, s =>
      (s.procs[pid]?).map fun p => { s with procs := s.procs.set pid { p with alive := false } }
  | .post request, s => some (s.spawn ⟨.handler request, true, create_batch D.settings request⟩)
  | .fetch batch_id, s => some (s.spawn ⟨.reader batch_id, true, streamed_results D.settings batch_id⟩)
  | .poll, s => some (s.spawn ⟨.poller, true, pollerRound D.rt⟩)
  | .resweep pid, s =>
      match s.procs[pid]? with
      | some ⟨.poller, true, .ret _⟩ =>
          some { s with procs := s.procs.set pid ⟨.poller, true, pollerRound D.rt⟩ }
      | _ => none
  | .start id, s =>
      match s.world.job id with
      | some job =>
          if job.runner = none then
            (jobArgv job.entrypoint).map fun argv =>
              ⟨s.world.updateJob id fun job => { job with runner := some s.procs.length },
                s.procs ++ [⟨.worker id, true, main D.rt D.environ argv⟩]⟩
          else none
      | none => none
  | .exit pid, s =>
      match s.procs[pid]? with
      | some p =>
          match p.role, p.exitCode with
          | .worker id, some code =>
              some ⟨s.world.updateJob id fun job => { job with exit_code := some code },
                s.procs.set pid { p with alive := false }⟩
          | _, _ => none
      | none => none
  | .report id status, s =>
      (s.world.job id).map fun _ =>
        { s with world := s.world.updateJob id fun job => { job with status := status } }
  | .tick now, s => some { s with world := { s.world with clock := now } }

/-- The steps that the assumptions leave open. -/
def permitted : Step → State → Bool
  | .act pid event, s =>
      match s.procs[pid]? with
      | some p =>
          match p.performs event with
          | some op => granted A (p.role.actor pid) op s.world
          | none => true
      | none => true
  | .poll, s => !A.alone || s.procs.all fun p => !p.polls
  | .report id status, s =>
      match s.world.job id with
      | some job =>
          (!A.forward || decide (Behind (reported D job) (map_status D.rt status))) &&
            (!A.honest || map_status D.rt status != "completed" || job.exit_code == some 0)
      | none => true
  | .tick now, s => !A.clock || decide (s.world.clock ≤ now)
  | _, _ => true

/-- **Every state** that a run reaches from the empty system. -/
inductive Reachable : State → Prop where
  | init : Reachable .init
  | step {s s' : State} {e : Step} (before : Reachable s) (may : permitted D A e s = true)
      (stepped : step D e s = some s') : Reachable s'

end Machine

/-! ## The invariant of the system -/

section Kept

variable (D : Deployment) (A : Assumed)

/-- What is known of a process that returns. -/
def Role.ends (pid : Nat) : (role : Role) → role.Result → World → Prop
  | .handler _, _, _ => True
  | .poller, _, _ => True
  | .worker id, (code : Nat), w => ∃ b entrypoint, Runs pid id entrypoint (view w b) ∧
      (code = 0 → ∀ row, (view w b).row = some row → ∃ counts, Output D b row counts (w.dirs b))
  | .reader b, (lines : List Text), w => A.honest = true → Served D b (fun d => ∃ content,
      d.file .results = some content ∧ lines = TextLines.lines content) (view w b)

/-- What is known of a process that raises. -/
def Role.fails (pid : Nat) : Role → World → Prop
  | .worker id, w => ∃ b entrypoint, Runs pid id entrypoint (view w b)
  | _, _ => True

/-- A process stands at a point of the outline of its program. -/
def Process.Kept (p : Process) (pid : Nat) (w : World) : Prop :=
  Contract.Holds (machine D.rd pid) (contract D A (p.role.actor pid)) p.program
    (p.role.ends D A pid) (fun _ => p.role.fails pid) w

/-- At most one poller task is alive. -/
def Single (procs : List Process) : Prop :=
  ∀ (i j : Nat) (p q : Process), procs[i]? = some p → procs[j]? = some q → p.polls = true → q.polls = true → i = j

/-- **The invariant of the system.** -/
structure SysInv (s : State) : Prop where
  world : Inv D A s.world
  follows : ∀ (pid : Nat) (p : Process), s.procs[pid]? = some p → p.alive = true → p.Kept D A pid s.world
  single : A.alone = true → Single s.procs

end Kept

variable {D : Deployment} {A : Assumed}

theorem Role.actor_ne {pid pid' : Nat} (other : pid ≠ pid') (role role' : Role) :
    role.actor pid ≠ role'.actor pid' := by
  cases role <;> cases role' <;> simp [Role.actor, other]

theorem Role.actor_ne_ray {pid : Nat} (role : Role) : Actor.ray ≠ role.actor pid := by
  cases role <;> nofun

theorem polls_isPoller {p : Process} {pid : Nat} (alive : p.alive = true)
    (poller : (p.role.actor pid).isPoller = true) (idle : p.polls = false) :
    ∃ e, p.program = .raise e := by
  obtain ⟨role, running, program⟩ := p
  cases role with
  | handler | worker | reader => cases poller
  | poller =>
      cases program with
      | raise e => exact ⟨e, rfl⟩
      | ret a => exact absurd (alive.symm.trans idle) (by decide)
      | call op next => exact absurd (alive.symm.trans idle) (by decide)

/-- **A step of somebody else** leaves a process where it stands in its outline. -/
theorem Process.Kept.interfere {p : Process} {pid : Nat} {w w' : World} {a : Actor}
    (kept : p.Kept D A pid w) (alive : p.alive = true) (before : Inv D A w) (after : Inv D A w')
    (moved : Move D A a w w') (stranger : a ≠ p.role.actor pid)
    (lonely : A.alone = true → p.polls = true → a.isPoller = false) : p.Kept D A pid w' := by
  by_cases other : Other A (p.role.actor pid) a
  · exact Contract.Holds.interfere kept before after (.inr ⟨a, other, moved⟩)
  · -- a second poller can only step where this one has ended
    have ended : A.alone = true ∧ (p.role.actor pid).isPoller = true ∧ p.polls = false := by
      have broken : ¬ (A.alone = true → (p.role.actor pid).isPoller = true → a.isPoller = false) :=
        fun holds => other ⟨stranger, holds⟩
      obtain ⟨alone, broken⟩ := Classical.not_imp.1 broken
      obtain ⟨poller, second⟩ := Classical.not_imp.1 broken
      exact ⟨alone, poller, Bool.eq_false_iff.2 fun polls => second (lonely alone polls)⟩
    obtain ⟨e, raised⟩ := polls_isPoller alive ended.2.1 ended.2.2
    obtain ⟨role, running, program⟩ := p
    cases role with
    | handler | worker | reader => cases ended.2.1
    | poller =>
        have isRaise : program = .raise e := raised
        subst isRaise
        exact ⟨fun _ => True, fun _ _ _ _ _ _ => trivial, trivial, fun _ _ _ => trivial⟩

/-! ### Lists of processes -/

theorem Single.set {procs : List Process} (single : Single procs) {pid : Nat} {p p' : Process}
    (found : procs[pid]? = some p) (polls : p'.polls = true → p.polls = true) :
    Single (procs.set pid p') := by
  have before : ∀ (i : Nat) (q : Process), (procs.set pid p')[i]? = some q → q.polls = true →
      ∃ q' : Process, procs[i]? = some q' ∧ q'.polls = true := by
    intro i q found' isPolling
    rcases getElem?_set_one found' with ⟨rfl, rfl⟩ | ⟨-, old⟩
    · exact ⟨p, found, polls isPolling⟩
    · exact ⟨q, old, isPolling⟩
  intro i j q r isQ isR qPolls rPolls
  obtain ⟨q', isQ', qPolls'⟩ := before i q isQ qPolls
  obtain ⟨r', isR', rPolls'⟩ := before j r isR rPolls
  exact single i j q' r' isQ' isR' qPolls' rPolls'

theorem Single.append {procs : List Process} (single : Single procs) {p : Process}
    (alone : p.polls = true → ∀ q ∈ procs, q.polls = false) : Single (procs ++ [p]) := by
  intro i j q r isQ isR qPolls rPolls
  rcases getElem?_append_one isQ with old | ⟨rfl, rfl⟩ <;>
    rcases getElem?_append_one isR with old' | ⟨rfl, rfl⟩
  · exact single i j q r old old' qPolls rPolls
  · rw [alone rPolls q (List.mem_of_getElem? old)] at qPolls
    cases qPolls
  · rw [alone qPolls r (List.mem_of_getElem? old')] at rPolls
    cases rPolls
  · rfl

/-! ### Steps of the system -/

section Systems

variable {s : State} {w' : World}

/-- One process goes on. -/
theorem SysInv.set (safe : SysInv D A s) {pid : Nat} {p p' : Process}
    (found : s.procs[pid]? = some p) (after : Inv D A w')
    (others : ∀ (j : Nat) (q : Process), j ≠ pid → s.procs[j]? = some q → q.alive = true →
      q.Kept D A j w')
    (mine : p'.alive = true → p'.Kept D A pid w') (polls : p'.polls = true → p.polls = true) :
    SysInv D A ⟨w', s.procs.set pid p'⟩ where
  world := after
  follows := by
    intro j q found' alive
    rcases getElem?_set_one found' with ⟨rfl, rfl⟩ | ⟨other, old⟩
    · exact mine alive
    · exact others j q other old alive
  single := fun alone => (safe.single alone).set found polls

/-- Another process starts. -/
theorem SysInv.spawn (safe : SysInv D A s) {p : Process}
    (mine : p.Kept D A s.procs.length s.world)
    (alone : A.alone = true → p.polls = true → ∀ q ∈ s.procs, q.polls = false) :
    SysInv D A (s.spawn p) where
  world := safe.world
  follows := by
    intro pid q found alive
    rcases getElem?_append_one found with old | ⟨rfl, rfl⟩
    · exact safe.follows pid q old alive
    · exact mine
  single := fun one => (safe.single one).append (alone one)

/-- Ray takes a step, or time passes. -/
theorem SysInv.ray (safe : SysInv D A s) (after : Inv D A w') (moved : Move D A .ray s.world w') :
    SysInv D A ⟨w', s.procs⟩ where
  world := after
  follows := fun pid p found alive =>
    (safe.follows pid p found alive).interfere alive safe.world after moved p.role.actor_ne_ray
      fun _ _ => rfl
  single := safe.single

/-- The steps of one process do not disturb the others. -/
theorem SysInv.others (safe : SysInv D A s) {pid : Nat} {p : Process}
    (found : s.procs[pid]? = some p) (after : Inv D A w')
    (moved : Move D A (p.role.actor pid) s.world w')
    (polling : (p.role.actor pid).isPoller = true → p.polls = true) (j : Nat) (q : Process)
    (other : j ≠ pid) (found' : s.procs[j]? = some q) (alive : q.alive = true) :
    q.Kept D A j w' := by
  refine (safe.follows j q found' alive).interfere alive safe.world after moved
    (Role.actor_ne (Ne.symm other) p.role q.role) fun alone polls => ?_
  refine Bool.eq_false_iff.2 fun poller => other ?_
  exact safe.single alone j pid q p found' found polls (polling poller)

end Systems

/-! ### What Ray does to a job -/

section Jobs

variable {w : World} {b : String} {job : Job} {f : Job → Job}

theorem updateJob_ids (w : World) (id : String) (keeps : ∀ job, (f job).submission_id = job.submission_id) :
    ((w.updateJob id f).jobs.map (·.submission_id)) = w.jobs.map (·.submission_id) := by
  unfold World.updateJob
  rw [List.map_map]
  refine List.map_congr_left fun job _ => ?_
  simp only [Function.comp_apply]
  split <;> simp [keeps]

/-- A step of one job is a step of its batch. -/
theorem Inv.updateJob {actor : Actor} (inv : Inv D A w) (found : (view w b).job = some job)
    (entrypoint : ∀ job, (f job).entrypoint = job.entrypoint)
    (submission_id : ∀ job, (f job).submission_id = job.submission_id)
    (changed : Change D A b w.clock actor (view w b) { view w b with job := some (f job) }) :
    Inv D A (w.updateJob job.submission_id f) ∧
      Move D A actor w (w.updateJob job.submission_id f) := by
  obtain ⟨becomes, touches⟩ := view_updateJob inv.distinct found entrypoint
  rw [← becomes] at changed
  refine ⟨inv.change touches changed inv.keyed ?_ ?_, b, .change touches changed⟩
  · unfold JobsDistinct
    rw [updateJob_ids w _ submission_id]
    exact inv.distinct
  · intro job' mem
    obtain ⟨old, isOld, rfl⟩ := List.mem_map.1 mem
    obtain ⟨b', mine⟩ := inv.owned old isOld
    refine ⟨b', ?_⟩
    rw [view_job] at mine ⊢
    rw [jobOf_updateJob w _ entrypoint, mine]
    rfl

/-- A job that Ray knows is the job of some batch. -/
theorem Inv.owner_of {id : String} (inv : Inv D A w) (known : w.job id = some job) :
    ∃ b, (view w b).job = some job ∧ job.submission_id = id := by
  obtain ⟨mem, same⟩ := job_mem known
  obtain ⟨b, mine⟩ := inv.owned job mem
  exact ⟨b, mine, same⟩

end Jobs

/-! ### Every step keeps the invariant -/

section StepLemmas

variable {s s' : State} {pid : Nat}

/-- What a permitted step of a process performs is granted to it. -/
theorem permitted_grants {event : Event} {p : Process} (may : permitted D A (.act pid event) s = true)
    (found : s.procs[pid]? = some p) (op : Op) (performed : Program.Performs p.program event op) :
    (contract D A (p.role.actor pid)).grants op s.world := by
  obtain ⟨⟨rest, isCall⟩, notRefused⟩ := performed
  have performs : p.performs event = some op := by
    unfold Process.performs
    rw [isCall]
    cases fate : event.fate with
    | refused e => exact absurd fate (notRefused e)
    | done => rfl
    | lost e => rfl
  simp only [permitted, found, performs] at may
  exact may

/-- A process performs its next operation, or is refused it, or loses the answer. -/
theorem SysInv.act (safe : SysInv D A s) {event : Event}
    (may : permitted D A (.act pid event) s = true) (stepped : step D (.act pid event) s = some s') :
    SysInv D A s' ∧ ∃ a, Move D A a s.world s'.world := by
  simp only [step] at stepped
  cases found : s.procs[pid]? with
  | none => rw [found] at stepped; cases stepped
  | some p =>
      rw [found] at stepped
      obtain ⟨alive, stepped⟩ := Option.ite_none_right_eq_some.1 stepped
      obtain ⟨⟨next, w'⟩, performed, rfl⟩ := Option.map_eq_some_iff.1 stepped
      obtain ⟨after, moved, mine⟩ :=
        (safe.follows pid p found alive).step safe.world (permitted_grants may found) performed
      have moved' : Move D A (p.role.actor pid) s.world w' := by
        rcases moved with rfl | moved
        · exact Move.quiet ⟨rfl, rfl, rfl, rfl, rfl⟩
        · exact moved
      have polls : (p.role.actor pid).isPoller = true → p.polls = true := by
        intro poller
        by_contra idle
        obtain ⟨e, raised⟩ := polls_isPoller alive poller (Bool.eq_false_iff.2 idle)
        rw [raised] at performed
        cases performed
      refine ⟨safe.set found after (safe.others found after moved' polls) (fun _ => mine) ?_, _, moved'⟩
      intro polls'
      refine polls ?_
      obtain ⟨role, running, program⟩ := p
      cases role with
      | poller => rfl
      | handler | worker | reader => cases polls'

/-- Ray starts a job. -/
theorem SysInv.start (safe : SysInv D A s) {id : String} (stepped : step D (.start id) s = some s') :
    SysInv D A s' ∧ ∃ a, Move D A a s.world s'.world := by
  simp only [step] at stepped
  cases known : s.world.job id with
  | none => rw [known] at stepped; cases stepped
  | some job =>
      rw [known] at stepped
      obtain ⟨idle, stepped⟩ := Option.ite_none_right_eq_some.1 stepped
      obtain ⟨argv, entered, rfl⟩ := Option.map_eq_some_iff.1 stepped
      obtain ⟨b, mine, rfl⟩ := safe.world.owner_of known
      have sound := safe.world.sound b
      have fresh : Fresh (view s.world b).dir := sound.fresh fun other isJob => by
        rw [mine] at isJob
        cases isJob
        exact idle
      have changed : Change D A b s.world.clock .ray (view s.world b)
          { view s.world b with job := some { job with runner := some s.procs.length } } :=
        .start s.procs.length job mine idle
      obtain ⟨after, moved⟩ := safe.world.updateJob
        (f := fun job => { job with runner := some s.procs.length }) mine (fun _ => rfl)
        (fun _ => rfl) changed
      refine ⟨(safe.ray after moved).spawn ?_ nofun, .ray, moved⟩
      -- the row of the job tells what its arguments are
      obtain ⟨row, isRow⟩ := sound.job_row mine
      obtain ⟨u, request, posted⟩ := (sound.row row isRow).origin
      have entrypoint := (sound.job row job isRow mine).entrypoint
      have idle' := (sound.job row job isRow mine).idle idle
      obtain rfl := posted.id
      rw [posted.model, posted.max_tokens] at entrypoint
      rw [entrypoint] at entered
      obtain ⟨becomes, -⟩ := view_updateJob safe.world.distinct mine
        (f := fun job => { job with runner := some s.procs.length }) fun _ => rfl
      have outline :=
        @main_outline D A s.procs.length job.submission_id u request argv entered
      have here : Runs s.procs.length job.submission_id
            (entrypointOf (newBatchId u) request.model request.max_tokens)
            (view (s.world.updateJob job.submission_id
              fun job => { job with runner := some s.procs.length }) (newBatchId u)) := by
        rw [becomes]
        exact ⟨_, rfl, rfl, idle', rfl, entrypoint⟩
      exact ⟨_, (stable_runs Fresh).stable, ⟨here, fresh⟩,
        outline.weaken (fun _ _ holds => holds)
          (fun code w _ holds => ⟨newBatchId u, _, holds⟩) fun _ w _ runs => ⟨newBatchId u, _, runs⟩⟩

/-- A worker process that has come to its end runs a job, and has left the output of its
row if its exit status is 0. -/
theorem Process.Kept.exits {p : Process} {w : World} {id : String} {code : Nat}
    (kept : p.Kept D A pid w) (inv : Inv D A w) (isWorker : p.role = .worker id)
    (exits : p.exitCode = some code) : ∃ b entrypoint, Runs pid id entrypoint (view w b) ∧
      (code = 0 → ∀ row, (view w b).row = some row → ∃ counts, Output D b row counts (w.dirs b)) := by
  obtain ⟨role, alive, program⟩ := p
  cases isWorker
  cases alive with
  | false => cases program <;> cases exits
  | true =>
      cases program with
      | call op next => cases exits
      | ret result =>
          cases exits
          exact Contract.Holds.returned kept inv
      | raise e =>
          cases exits
          obtain ⟨b, entrypoint, runs⟩ := Contract.Holds.raised kept inv
          exact ⟨b, entrypoint, runs, fun isZero => absurd isZero (by decide)⟩

/-- The process of a job ends. -/
theorem SysInv.exit (safe : SysInv D A s) (stepped : step D (.exit pid) s = some s') :
    SysInv D A s' ∧ ∃ a, Move D A a s.world s'.world := by
  simp only [step] at stepped
  cases found : s.procs[pid]? with
  | none => rw [found] at stepped; cases stepped
  | some p =>
      rw [found] at stepped
      simp only at stepped
      split at stepped
      · rename_i id code isWorker exits
        cases stepped
        have alive : p.alive = true := by
          obtain ⟨role, running, program⟩ := p
          cases isWorker
          cases running with
          | true => rfl
          | false => cases program <;> cases exits
        obtain ⟨b, entrypoint, ⟨job, mine, runs, running, rfl, -⟩, finished⟩ :=
          (safe.follows pid p found alive).exits safe.world isWorker exits
        have changed : Change D A b s.world.clock (.worker pid) (view s.world b)
            { view s.world b with job := some { job with exit_code := some code } } :=
          .exit pid job code mine runs running finished
        obtain ⟨after, moved⟩ := safe.world.updateJob
          (f := fun job => { job with exit_code := some code }) mine (fun _ => rfl) (fun _ => rfl)
          changed
        have actor : p.role.actor pid = .worker pid := by rw [isWorker]; rfl
        refine ⟨safe.set found after (safe.others found after (actor ▸ moved) ?_) nofun ?_, _, moved⟩
        · rw [actor]
          nofun
        · obtain ⟨role, running, program⟩ := p
          cases isWorker
          nofun
      · cases stepped

/-- Ray reports a status. -/
theorem SysInv.report (safe : SysInv D A s) {id : String} {status : RayStatus}
    (may : permitted D A (.report id status) s = true)
    (stepped : step D (.report id status) s = some s') :
    SysInv D A s' ∧ ∃ a, Move D A a s.world s'.world := by
  simp only [step] at stepped
  obtain ⟨job, known, rfl⟩ := Option.map_eq_some_iff.1 stepped
  obtain ⟨b, mine, rfl⟩ := safe.world.owner_of known
  simp only [permitted, known, Bool.and_eq_true, Bool.or_eq_true, Bool.not_eq_true',
    decide_eq_true_eq, bne_iff_ne, beq_iff_eq] at may
  obtain ⟨forward, honest⟩ := may
  have changed : Change D A b s.world.clock .ray (view s.world b)
      { view s.world b with job := some { job with status := status } } := by
    refine .report job status mine ?_ ?_
    · intro isForward
      rcases forward with not | behind
      · rw [isForward] at not; cases not
      · exact behind
    · intro isHonest completed
      rcases honest with (not | other) | exited
      · rw [isHonest] at not; cases not
      · exact absurd completed other
      · exact exited
  obtain ⟨after, moved⟩ := safe.world.updateJob (f := fun job => { job with status := status }) mine
    (fun _ => rfl) (fun _ => rfl) changed
  exact ⟨safe.ray after moved, .ray, moved⟩

/-- The outline of a program that starts from nothing. -/
theorem Process.Kept.begin {p : Process} {w : World}
    (outline : Contract.Outline (machine D.rd pid) (contract D A (p.role.actor pid)) p.program
      (fun _ => True) (p.role.ends D A pid) fun _ => p.role.fails pid) : p.Kept D A pid w :=
  ⟨fun _ => True, fun _ _ _ _ _ _ => trivial, trivial, outline⟩

theorem polling_kept {w : World} : (⟨.poller, true, pollerRound D.rt⟩ : Process).Kept D A pid w :=
  .begin pollerRound_outline

/-- **key theorem.** Every step of the system keeps its invariant, and moves the world as
one of the parties may. -/
theorem SysInv.step (safe : SysInv D A s) {e : Step} (may : permitted D A e s = true)
    (stepped : step D e s = some s') : SysInv D A s' ∧ ∃ a, Move D A a s.world s'.world := by
  have still : ∃ a, Move D A a s.world s.world := ⟨.ray, Move.quiet ⟨rfl, rfl, rfl, rfl, rfl⟩⟩
  cases e with
  | act pid event => exact safe.act may stepped
  | start id => exact safe.start stepped
  | exit pid => exact safe.exit stepped
  | report id status => exact safe.report may stepped
  | kill pid =>
      simp only [Cluster.step] at stepped
      obtain ⟨p, found, rfl⟩ := Option.map_eq_some_iff.1 stepped
      refine ⟨safe.set found safe.world (fun j q _ => safe.follows j q) nofun ?_, still⟩
      obtain ⟨role, alive, program⟩ := p
      cases role <;> cases program <;> nofun
  | post request =>
      cases stepped
      exact ⟨safe.spawn (.begin (create_batch_outline request)) nofun, still⟩
  | fetch batch_id =>
      cases stepped
      exact ⟨safe.spawn (.begin streamed_follows.outline) nofun, still⟩
  | poll =>
      cases stepped
      refine ⟨safe.spawn polling_kept fun alone _ q mem => ?_, still⟩
      simp only [permitted, alone, Bool.not_true, Bool.false_or, List.all_eq_true] at may
      simpa using may q mem
  | resweep pid =>
      simp only [Cluster.step] at stepped
      split at stepped
      · rename_i found
        cases stepped
        exact ⟨safe.set found safe.world (fun j q _ => safe.follows j q) (fun _ => polling_kept)
          fun _ => rfl, still⟩
      · cases stepped
  | tick now =>
      cases stepped
      simp only [permitted, Bool.or_eq_true, Bool.not_eq_true', decide_eq_true_eq] at may
      have clock : A.clock = true → s.world.clock ≤ now := fun clock => by simpa [clock] using may
      exact ⟨safe.ray (safe.world.same rfl rfl (fun _ => rfl) clock) ⟨"", .same (fun _ => rfl) clock⟩,
        .ray, "", .same (fun _ => rfl) clock⟩

end StepLemmas

theorem SysInv.init : SysInv D A .init :=
  ⟨Inv.init, nofun, fun _ => nofun⟩

/-- **Run lemma**: the invariant holds in every reachable state. -/
theorem reachable_inv {s : State} (reachable : Reachable D A s) : SysInv D A s := by
  induction reachable with
  | init => exact .init
  | step before may stepped ih => exact (ih.step may stepped).1

/-! ## Runs to evaluate -/

/-- One step, or a process that performs a number of operations. -/
inductive Scene where
  | one (e : Step)
  | runs (pid count : Nat)

section Play

variable (D : Deployment) (A : Assumed) (policy : Op → World → Event)

/-- The event in which a process performs its next operation. -/
def nextEvent (s : State) (pid : Nat) : Option Step :=
  match s.procs[pid]? with
  | some p =>
      match p.program with
      | .call op _ => some (.act pid (policy op s.world))
      | _ => none
  | none => none

/-- Perform up to `count` operations of a process. -/
def drive (pid : Nat) : Nat → State → Option State
  | 0, s => some s
  | count + 1, s =>
      match nextEvent policy s pid with
      | some e => if permitted D A e s then (step D e s).bind (drive pid count) else none
      | none => some s

def play : List Scene → State → Option State
  | [], s => some s
  | .one e :: scenes, s => if permitted D A e s then (step D e s).bind (play scenes) else none
  | .runs pid count :: scenes, s => (drive D A policy pid count s).bind (play scenes)

end Play

section Played

variable {policy : Op → World → Event} {s s' : State}

theorem reachable_drive {pid count : Nat} (reachable : Reachable D A s)
    (driven : drive D A policy pid count s = some s') : Reachable D A s' := by
  induction count generalizing s with
  | zero => cases driven; exact reachable
  | succ count ih =>
      simp only [drive] at driven
      split at driven
      · rename_i e _
        obtain ⟨may, driven⟩ := Option.ite_none_right_eq_some.1 driven
        obtain ⟨t, stepped, driven⟩ := Option.bind_eq_some_iff.1 driven
        exact ih (reachable.step may stepped) driven
      · cases driven
        exact reachable

theorem reachable_play {scenes : List Scene} (reachable : Reachable D A s)
    (played : play D A policy scenes s = some s') : Reachable D A s' := by
  induction scenes generalizing s with
  | nil => cases played; exact reachable
  | cons scene scenes ih =>
      cases scene with
      | one e =>
          obtain ⟨may, played⟩ := Option.ite_none_right_eq_some.1 played
          obtain ⟨t, stepped, played⟩ := Option.bind_eq_some_iff.1 played
          exact ih (reachable.step may stepped) played
      | runs pid count =>
          obtain ⟨t, driven, played⟩ := Option.bind_eq_some_iff.1 played
          exact ih (reachable_drive reachable driven) played

end Played

end KubeRayBatch.Cluster
