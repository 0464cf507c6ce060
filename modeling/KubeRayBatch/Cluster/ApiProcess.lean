/-
# Cluster.ApiProcess -- the API process, from startup to shutdown, again and again

The cluster lets anybody start a poller at any time, and takes it for granted that the engine
and the client of the handlers are there.  Here the API process is a party of its own: it runs
lifespans one after the other, each of which may fail or be cancelled at any `await`, it may
be killed and started again, and the poller is a task of the lifespan that started it.  The
database, the volume, Ray and the workers outlive it.

`lifeExec` says what a call of the lifespan does, `App.step` is one step of the process or of
the cluster around it, and `siteContract` is what a lifespan may expect of the others: they
bind nothing, start no poller, and end none that is not cancelled.
-/
import KubeRayBatch.Api.Lifespan
import KubeRayBatch.Cluster.Rows

namespace KubeRayBatch.Cluster

open Theory Api

set_option autoImplicit false

/-! ## The process and its steps -/

/-- The cluster, and what the API process holds. -/
structure Site where
  cluster : State
  globals : Globals
  /-- The cache of `get_settings`. -/
  settings : Option Config.Settings
  root : RootLogger
  /-- The tasks that a cancellation was requested of. -/
  cancelled : List Nat
  messages : List String

def Site.boot (cluster : State) : Site := ⟨cluster, .fresh, none, .fresh, [], []⟩

/-- What the outside world decides about a call of the lifespan. -/
inductive LifeChoice where
  | go
  /-- The call raises, or the lifespan is cancelled at its `await`. -/
  | raises (e : PyException)

/-- How an ended task has ended: with its exception, or cancelled in its sleep. -/
def Process.outcome : Process → PyException
  | ⟨.poller, true, .raise e⟩ => e
  | _ => .cancelled

section Machine

variable (D : Deployment) (B : Config.BaseSettings)

def lifeExec : (op : LifeOp) → LifeChoice → Site → Option (op.Res × Site)
  | .get_settings, _, s =>
      match s.settings, Config.Settings.ofEnv B with
      | some settings, _ => some (.ok settings, s)
      | none, .ok settings => some (.ok settings, { s with settings := some settings })
      | none, .error e => some (.error e, s)
  | .setup_logging level, _, s => some ((), { s with root := setup_logging level s.root })
  | .log message, _, s => some ((), { s with messages := s.messages ++ [message] })
  | .engine, _, s => some (s.globals.engine, s)
  | .dispose_engine id, _, s =>
      some ((), { s with globals := { s.globals with
        engines := s.globals.engines.modify id fun engine => { engine with disposed := true } } })
  | .create_async_engine url, choice, s =>
      match choice with
      | .raises e => some (.error e, s)
      | .go => some (.ok s.globals.engines.length,
          { s with globals := { s.globals with engines := s.globals.engines ++ [⟨url, false⟩] } })
  | .set_engine engine, _, s => some ((), { s with globals := { s.globals with engine := engine } })
  | .set_sessionmaker engine, _, s =>
      some ((), { s with globals := { s.globals with sessionmaker := engine } })
  | .create_tables _, _, s => some ((), s)
  | .client_factory, _, s => some (s.globals.client_factory, s)
  | .build_client factory address, choice, s =>
      match choice with
      | .raises e => some (.error e, s)
      | .go => some (.ok ⟨factory, address⟩, s)
  | .set_client client, _, s => some ((), { s with globals := { s.globals with client := client } })
  | .set_client_factory factory, _, s =>
      some ((), { s with globals := { s.globals with client_factory := factory } })
  | .create_task, _, s =>
      some (s.cluster.procs.length,
        { s with cluster := s.cluster.spawn ⟨.poller, true, pollerRound D.rt⟩ })
  | .serve, _, s => some ((), s)
  | .cancel task, _, s => some ((), { s with cancelled := task :: s.cancelled })
  | .join task, choice, s =>
      match s.cluster.procs[task]? with
      | some p =>
          if p.polls then none
          else
            match choice with
            -- a cancelled `await` is only answered once the awaited task has ended
            | .raises _ => some (.error .cancelled, s)
            | .go => some (.error p.outcome, s)
      | none => none

def lifeMachine : Program.Machine LifeOp LifeOp.Res Site LifeChoice :=
  ⟨lifeExec D B, LifeOp.fallible⟩

end Machine

structure App where
  site : Site
  life : Option (Life Unit)

def App.init : App := ⟨.boot .init, none⟩

/-- Between startup and shutdown. -/
def App.serving (a : App) : Bool :=
  match a.life with
  | some (.call .serve _) => true
  | _ => false

def Role.isPoller : Role → Bool
  | .poller => true
  | _ => false

/-- The API process is gone, and its tasks with it. -/
def Process.stop (p : Process) : Process := if p.role.isApi then { p with alive := false } else p

/-- An `Exception` that is no `HTTPException`. -/
def foreign (e : PyException) : Bool :=
  e.isinstance .exception && !e.isinstance .cancelledError && e.http.isNone

/-- The client is asked for by its name, and a session opens only with a session maker. -/
def boundAnswers (g : Globals) (p : Process) (event : Event) : Bool :=
  match p.program with
  | .call .client_ready _ =>
      match event.choice with
      | .flag ready => ready == g.client.isSome
      | _ => false
  | .call .open_session _ =>
      g.sessionmaker.isSome ||
        event.thrown == some (.runtimeError "db.init_engine(...) must be called first")
  | _ => true

/-- A task that is not cancelled sees foreign exceptions; one that is, is cancelled at its
next `await`. -/
def taskAnswers (cancelled : Bool) (p : Process) (event : Event) : Bool :=
  match p.program with
  | .call op _ =>
      if cancelled && op.fallible then event.thrown == some .cancelled
      else event.thrown.all foreign
  | _ => true

/-- The steps that others than the lifespan take. -/
def App.admits (a : App) : Step → Bool
  | .act pid event =>
      match a.site.cluster.procs[pid]? with
      | some p =>
          (!p.role.isApi || boundAnswers a.site.globals p event) &&
            (!p.role.isPoller || taskAnswers (a.site.cancelled.contains pid) p event)
      | none => true
  | .kill pid =>
      match a.site.cluster.procs[pid]? with
      | some p => !p.role.isPoller
      | none => true
  | .post _ | .fetch _ => a.serving
  | .poll | .resweep _ => false
  | _ => true

inductive AppStep where
  /-- The server opens the lifespan. -/
  | enter
  | life (event : Program.Event PyException LifeChoice)
  /-- The seam of the tests; it comes before `init`. -/
  | set_client_factory (factory : String)
  /-- The sleep between two sweeps ends, by itself or by a cancellation. -/
  | wake (pid : Nat)
  /-- The process is killed, and started again. -/
  | restart
  | cluster (e : Step)

section Steps

variable (D : Deployment) (B : Config.BaseSettings)

def App.step : AppStep → App → Option App
  | .enter, a =>
      if a.life.all (·.ending.isSome) then some { a with life := some lifespan } else none
  | .life event, a =>
      match a.life with
      | some p =>
          (Program.step (lifeMachine D B) p event a.site).map fun next => ⟨next.2, some next.1⟩
      | none => none
  | .set_client_factory factory, a =>
      if a.life.all (·.ending.isSome) then
        -- the lifespan before, if there was one, is over
        some ⟨{ a.site with globals := { a.site.globals with client_factory := some factory } }, none⟩
      else none
  | .wake pid, a =>
      let e : Step := if a.site.cancelled.contains pid then .kill pid else .resweep pid
      match a.site.cluster.procs[pid]? with
      | some ⟨.poller, true, .ret _⟩ =>
          (Cluster.step D e a.site.cluster).map fun cluster =>
            { a with site := { a.site with cluster } }
      | _ => none
  | .restart, a =>
      some ⟨.boot { a.site.cluster with procs := a.site.cluster.procs.map Process.stop }, none⟩
  | .cluster e, a =>
      if a.admits e then
        (Cluster.step D e a.site.cluster).map fun cluster =>
          { a with site := { a.site with cluster } }
      else none

/-- What the assumptions about a run leave open. -/
def App.permits (A : Assumed) : AppStep → App → Bool
  | .cluster e, a => permitted D A e a.site.cluster
  | _, _ => true

/-- The runs of the API process and the cluster around it. -/
inductive App.Run (A : Assumed) (a : App) : App → Prop where
  | refl : App.Run A a a
  | step {b c : App} {e : AppStep} (before : App.Run A a b) (may : App.permits D A e b = true)
      (stepped : App.step D B e b = some c) : App.Run A a c

/-- **Every state** of the two. -/
abbrev App.Reachable (A : Assumed) (a : App) : Prop := App.Run D B A .init a

/-- A run to evaluate: what happens next may depend on the state. -/
def App.play (A : Assumed) : List (App → Option AppStep) → App → Option App
  | [], a => some a
  | next :: script, a =>
      match next a with
      | some e =>
          if App.permits D A e a then (App.step D B e a).bind (App.play A script) else none
      | none => App.play A script a

end Steps

/-! ## What holds of the process -/

/-- Nobody polls. -/
def Unpolled (s : Site) : Prop :=
  ∀ (pid : Nat) (p : Process), s.cluster.procs[pid]? = some p → p.polls = false

/-- Nobody polls but this task. -/
def PolledBy (task : Nat) (s : Site) : Prop :=
  ∀ (pid : Nat) (p : Process), s.cluster.procs[pid]? = some p → p.polls = true → pid = task

/-- The task polls, and goes on. -/
def Alive (task : Nat) (s : Site) : Prop :=
  task ∉ s.cancelled ∧ ∃ p : Process, s.cluster.procs[task]? = some p ∧ p.polls = true

/-- **As long as it serves**: what the settings say is bound, and one poller is alive. -/
structure Up (s : Site) : Prop where
  bound : ∃ settings id factory, s.settings = some settings ∧
    Opened id settings.POSTGRES_URL s.globals ∧
    s.globals.client = some ⟨factory, settings.RAY_ADDRESS⟩ ∧
    s.root = ⟨settings.LOG_LEVEL, [.json]⟩
  polled : ∃ task, Alive task s ∧ PolledBy task s

/-- A lifespan that failed: it leaves no poller, and at most its engine. -/
structure Left (s : Site) : Prop where
  unpolled : Unpolled s
  bound : Bound s.globals

/-- A lifespan that returned: nothing is left. -/
structure Down (s : Site) : Prop where
  unpolled : Unpolled s
  engine : s.globals.engine = none
  sessionmaker : s.globals.sessionmaker = none
  client : s.globals.client = none
  client_factory : s.globals.client_factory = none
  closed : ∀ i, ¬ s.globals.IsOpen i

/-- A poller round, or what is left of one that was cancelled. -/
def Round : Process → Prop
  | ⟨.poller, _, program⟩ => Tame (fun _ => False) program ∨ program = .raise .cancelled
  | _ => True

/-- The invariant of the process, whatever its lifespan does. -/
structure Site.Inv (B : Config.BaseSettings) (s : Site) : Prop where
  one_open : ∀ i j, s.globals.IsOpen i → s.globals.IsOpen j → i = j
  read : ∀ settings, s.settings = some settings → Config.Settings.ofEnv B = .ok settings
  rounds : ∀ (pid : Nat) (p : Process), s.cluster.procs[pid]? = some p → Round p
  cancelled : ∀ task ∈ s.cancelled, task < s.cluster.procs.length

/-- What the others leave of the lifespan's business: they bind nothing, start no poller, and
end none that is not cancelled. -/
structure Aside (s s' : Site) : Prop where
  globals : s'.globals = s.globals
  settings : s'.settings = s.settings
  root : s'.root = s.root
  cancelled : s'.cancelled = s.cancelled
  polls : ∀ (pid : Nat) (p' : Process), s'.cluster.procs[pid]? = some p' → p'.polls = true →
    ∃ p : Process, s.cluster.procs[pid]? = some p ∧ p.polls = true
  going : ∀ (pid : Nat) (p : Process), pid ∉ s.cancelled → s.cluster.procs[pid]? = some p →
    p.polls = true → ∃ p' : Process, s'.cluster.procs[pid]? = some p' ∧ p'.polls = true

theorem Down.left {s : Site} (down : Down s) : Left s :=
  ⟨down.unpolled, down.sessionmaker.trans down.engine.symm, fun i isOpen => (down.closed i isOpen).elim⟩

/-- The lifespan starts a poller only where nobody polls, and serves only when all is up. -/
def siteContract (B : Config.BaseSettings) : Contract LifeOp Site where
  inv := Site.Inv B
  rely := Aside
  guar := fun _ _ => True
  allowed := fun op s =>
    match op with
    | .create_task => Unpolled s
    | .serve => Up s
    | _ => True
  grants := fun _ _ => True

section Stable

variable {B : Config.BaseSettings}

theorem stable_unpolled : (siteContract B).Stable Unpolled := by
  intro s s' _ _ aside unpolled pid p found
  by_contra polling
  obtain ⟨q, found', polled⟩ := aside.polls pid p found (by simpa using polling)
  rw [unpolled pid q found'] at polled
  cases polled

theorem stable_polledBy (task : Nat) : (siteContract B).Stable (PolledBy task) := by
  intro s s' _ _ aside polled pid p found polls
  obtain ⟨q, found', polls'⟩ := aside.polls pid p found polls
  exact polled pid q found' polls'

theorem stable_alive (task : Nat) : (siteContract B).Stable (Alive task) := by
  rintro s s' - - aside ⟨uncancelled, p, found, polls⟩
  refine ⟨?_, aside.going task p uncancelled found polls⟩
  rw [aside.cancelled]
  exact uncancelled

theorem stable_down : (siteContract B).Stable Down := by
  rintro s s' before after aside ⟨unpolled, engine, sessionmaker, client, factory, closed⟩
  refine ⟨stable_unpolled s s' before after aside unpolled, ?_, ?_, ?_, ?_, ?_⟩
  all_goals
    rw [aside.globals]
    assumption

/-- Before the poller is started. -/
structure Before (G : Globals → Prop) (φ : Option Config.Settings → RootLogger → Prop) (s : Site) :
    Prop where
  globals : G s.globals
  held : φ s.settings s.root
  unpolled : Unpolled s

theorem stable_before (G : Globals → Prop) (φ : Option Config.Settings → RootLogger → Prop) :
    (siteContract B).Stable (Before G φ) := by
  rintro s s' before after aside ⟨globals, held, unpolled⟩
  refine ⟨?_, ?_, stable_unpolled s s' before after aside unpolled⟩
  · rw [aside.globals]
    exact globals
  · rw [aside.settings, aside.root]
    exact held

theorem stable_left : (siteContract B).Stable Left := by
  rintro s s' before after aside ⟨unpolled, bound⟩
  refine ⟨stable_unpolled s s' before after aside unpolled, ?_⟩
  rw [aside.globals]
  exact bound

end Stable

end KubeRayBatch.Cluster
