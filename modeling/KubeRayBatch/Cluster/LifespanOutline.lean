/-
# Cluster.LifespanOutline -- a lifespan, call by call

The proof outline of `lifespan` under the contract of the API process, from what the lifespan
before it has left.  Startup binds an engine, a session maker and a client, in this order, and
starts the poller where nobody polls; shutdown ends it and takes down what is bound.

* `lifespan_outline`: it serves only when all is up, returns only when all is down, and
  where it raises it leaves no poller, and at most the engine that is bound.
-/
import KubeRayBatch.Cluster.ApiProcess

namespace KubeRayBatch.Cluster

open Theory Api

set_option autoImplicit false

/-! ## The outline of a lifespan -/

section Outlines

variable (D : Deployment) (B : Config.BaseSettings)

abbrev LifeOutline {α : Type} (p : Life α) (P : Site → Prop) (Q : α → Site → Prop)
    (X : Site → Prop) : Prop :=
  Contract.Outline (lifeMachine D B) (siteContract B) p P Q fun _ => X

variable {D B} {α : Type} {P : Site → Prop} {Q : α → Site → Prop} {X : Site → Prop}

/-- A call without an `await`. -/
theorem call_outline (op : LifeOp) (certain : op.fallible = false) {R : op.Res → Site → Prop}
    {f : op.Res → Life α} (stable : ∀ a, (siteContract B).Stable (R a))
    (allowed : ∀ s, P s → (siteContract B).allowed op s)
    (does : ∀ c s a s', Site.Inv B s → P s → lifeExec D B op c s = some (a, s') →
      Site.Inv B s' ∧ R a s')
    (rest : ∀ a, LifeOutline D B (f a) (R a) Q X) :
    LifeOutline D B ((ask_life op).bind f) P Q X := by
  refine Contract.Outline.ask (D := R) (F := fun _ _ => False) ?_ (fun _ _ _ never => never.elim) rest
  have sure : ∀ {φ : Prop}, (lifeMachine D B).fallible op = true → φ := by
    intro φ may
    exact absurd (certain.symm.trans may) (by decide)
  refine ⟨stable, fun _ => Contract.stable_const False, fun s _ => allowed s, ?_, sure⟩
  intro s c a s' inv holds _ executed
  obtain ⟨inv', leads⟩ := does c s a s' inv holds executed
  exact ⟨inv', trivial, leads, sure⟩

/-- An `await`: it may fail, before or after the operation is performed. -/
theorem await_outline (op : LifeOp) {R : op.Res → Site → Prop} {f : op.Res → Life α}
    (stable : ∀ a, (siteContract B).Stable (R a)) (stableFailed : (siteContract B).Stable X)
    (allowed : ∀ s, P s → (siteContract B).allowed op s)
    (does : ∀ c s a s', Site.Inv B s → P s → lifeExec D B op c s = some (a, s') →
      Site.Inv B s' ∧ R a s' ∧ X s')
    (refused : ∀ s, P s → X s) (rest : ∀ a, LifeOutline D B (f a) (R a) Q X) :
    LifeOutline D B ((ask_life op).bind f) P Q X := by
  refine Contract.Outline.ask (D := R) (F := fun _ => X) ?_ (fun _ _ _ holds => holds) rest
  refine ⟨stable, fun _ => stableFailed, fun s _ => allowed s, ?_, fun _ s _ _ => refused s⟩
  intro s c a s' inv holds _ executed
  obtain ⟨inv', leads, failed⟩ := does c s a s' inv holds executed
  exact ⟨inv', trivial, leads, fun _ _ => failed⟩

/-- An operation and nothing after it. -/
theorem last_outline {op : LifeOp} {Q : op.Res → Site → Prop}
    (outline : LifeOutline D B ((ask_life op).bind .ret) P Q X) :
    LifeOutline D B (ask_life op) P Q X := by
  rw [Program.bind_ret] at outline
  exact outline

/-- A call that gave a value, or raised. -/
theorem try_outline {R : α → Site → Prop} (answer : Except PyException α) :
    LifeOutline D B (try_life answer) (Contract.Ended R (fun _ => X) answer) R X := by
  cases answer with
  | ok a => exact Contract.Outline.ret fun _ _ holds => holds
  | error e => exact Contract.Outline.raise fun _ _ holds => holds

variable {φ : Option Config.Settings → RootLogger → Prop}

theorem log_outline (message : String) {rest : Life α} (stable : (siteContract B).Stable P)
    (ignores : ∀ s messages, P s → P { s with messages := messages })
    (continues : LifeOutline D B rest P Q X) :
    LifeOutline D B ((ask_life (.log message)).bind fun _ => rest) P Q X := by
  refine call_outline (.log message) rfl (fun _ => stable) (fun _ _ => trivial) ?_ fun _ => continues
  rintro c s a s' inv holds executed
  cases executed
  exact ⟨⟨inv.one_open, inv.read, inv.rounds, inv.cancelled⟩, ignores s _ holds⟩

/-- A message, and nothing after it. -/
theorem last_log_outline (message : String) (stable : (siteContract B).Stable P)
    (ignores : ∀ s messages, P s → P { s with messages := messages }) :
    LifeOutline D B (ask_life (.log message)) P (fun _ => P) X := by
  refine last_outline (call_outline (.log message) rfl (fun _ => stable) (fun _ _ => trivial) ?_
    fun _ => Contract.Outline.ret fun _ _ holds => holds)
  rintro c s a s' inv holds executed
  cases executed
  exact ⟨⟨inv.one_open, inv.read, inv.rounds, inv.cancelled⟩, ignores s _ holds⟩

theorem before_messages {G : Globals → Prop} (s : Site) (messages : List String)
    (before : Before G φ s) : Before G φ { s with messages := messages } :=
  ⟨before.globals, before.held, before.unpolled⟩

theorem Before.left {G : Globals → Prop} {s : Site} (before : Before G φ s)
    (bound : G s.globals → Bound s.globals) : Left s :=
  ⟨before.unpolled, bound before.globals⟩

/-- From the closed names on: create an engine and bind it. -/
theorem bind_engine_outline (url : String) :
    LifeOutline D B
      (do
        ask_life (.log "db: initializing engine")
        let created : Except PyException Nat ← ask_life (.create_async_engine url)
        let engine ← try_life created
        ask_life (.set_engine (some engine))
        ask_life (.set_sessionmaker (some engine)))
      (Before Closed φ) (fun _ s => ∃ id, Before (Opened id url) φ s) Left := by
  refine log_outline _ (stable_before _ φ) before_messages ?_
  refine call_outline (.create_async_engine url)
    (R := Contract.Ended (fun id => Before (Created id url) φ) fun _ => Left) rfl
    (Contract.stable_ended (fun id => stable_before _ φ) fun _ => stable_left)
    (fun _ _ => trivial) ?_
    fun created => ?_
  · rintro c s a s' inv ⟨closed, held, unpolled⟩ executed
    cases c with
    | raises e =>
        cases executed
        exact ⟨inv, unpolled, closed.bound⟩
    | go =>
        cases executed
        exact ⟨⟨(closed.create url).one_open, inv.read, inv.rounds, inv.cancelled⟩, closed.create url, held, unpolled⟩
  refine Contract.Outline.bind (try_outline created) fun id => ?_
  refine call_outline (.set_engine (some id)) rfl
    (R := fun _ => Before (fun g => Created id url g ∧ g.engine = some id) φ)
    (fun _ => stable_before _ φ) (fun _ _ => trivial) ?_ fun _ => ?_
  · rintro c s a s' inv ⟨created, held, unpolled⟩ executed
    cases executed
    exact ⟨⟨inv.one_open, inv.read, inv.rounds, inv.cancelled⟩, ⟨⟨created.here, created.only⟩, rfl⟩, held, unpolled⟩
  refine Contract.Outline.weaken (Q := fun _ => Before (Opened id url) φ) (X := fun _ => Left)
    ?_ (fun _ _ holds => holds) (fun _ _ _ holds => ⟨id, holds⟩) fun _ _ _ holds => holds
  refine last_outline (call_outline _ rfl (fun _ => stable_before _ φ) (fun _ _ => trivial) ?_ fun _ =>
    Contract.Outline.ret fun _ _ holds => holds)
  rintro c s a s' inv ⟨⟨created, isBound⟩, held, unpolled⟩ executed
  cases executed
  exact ⟨⟨inv.one_open, inv.read, inv.rounds, inv.cancelled⟩, ⟨isBound, rfl, created.here, created.only⟩, held, unpolled⟩

theorem init_engine_outline (url : String) :
    LifeOutline D B (init_engine url) (Before Bound φ)
      (fun _ s => ∃ id, Before (Opened id url) φ s) Left := by
  refine call_outline .engine rfl (R := fun engine => Before (fun g => Bound g ∧ g.engine = engine) φ)
    (fun _ => stable_before _ φ) (fun _ _ => trivial) ?_ fun (engine : Option Nat) => ?_
  · rintro c s a s' inv ⟨bound, held, unpolled⟩ executed
    cases executed
    exact ⟨inv, ⟨bound, rfl⟩, held, unpolled⟩
  cases engine with
  | some id =>
      refine await_outline (.dispose_engine id) (R := fun _ => Before Closed φ)
        (fun _ => stable_before _ φ) stable_left (fun _ _ => trivial) ?_ ?_
        fun _ => bind_engine_outline url
      · rintro c s a s' inv ⟨⟨bound, isBound⟩, held, unpolled⟩ executed
        cases executed
        have closed := dispose_closes bound isBound
        exact ⟨⟨closed.one_open, inv.read, inv.rounds, inv.cancelled⟩, ⟨closed, held, unpolled⟩, unpolled, closed.bound⟩
      · exact fun s before => before.left And.left
  | none =>
      refine Contract.Outline.pre (bind_engine_outline url) ?_
      rintro s - ⟨⟨bound, unbound⟩, held, unpolled⟩
      refine ⟨⟨bound.sessionmaker, fun i isOpen => ?_⟩, held, unpolled⟩
      rw [bound.only i isOpen] at unbound
      cases unbound

theorem create_all_outline {id : Nat} {url : String} :
    LifeOutline D B create_all (Before (Opened id url) φ) (fun _ => Before (Opened id url) φ)
      Left := by
  refine call_outline .engine rfl (R := fun engine s => engine = some id ∧ Before (Opened id url) φ s)
    (fun _ => Contract.stable_and (Contract.stable_const _) (stable_before _ φ))
    (fun _ _ => trivial) ?_ fun engine => Contract.Outline.const_elim fun isBound => ?_
  · rintro c s a s' inv before executed
    cases executed
    exact ⟨inv, before.globals.engine, before⟩
  subst isBound
  refine await_outline (.create_tables id) (R := fun _ => Before (Opened id url) φ)
    (fun _ => stable_before _ φ) stable_left (fun _ _ => trivial) ?_
    (fun s before => before.left Opened.bound)
    fun _ => last_log_outline _ (stable_before _ φ) before_messages
  rintro c s a s' inv before executed
  cases executed
  exact ⟨inv, before, before.left Opened.bound⟩

/-- The names of startup: an engine and a client. -/
def Ready (id : Nat) (url address : String) (g : Globals) : Prop :=
  Opened id url g ∧ ∃ factory, g.client = some ⟨factory, address⟩

theorem ray_init_outline {id : Nat} {url : String} (address : String) :
    LifeOutline D B (RayClient.init address) (Before (Opened id url) φ)
      (fun _ => Before (Ready id url address) φ) Left := by
  refine call_outline .client_factory rfl (R := fun _ => Before (Opened id url) φ)
    (fun _ => stable_before _ φ) (fun _ _ => trivial) ?_
    fun factory => log_outline _ (stable_before _ φ) before_messages ?_
  · rintro c s a s' inv before executed
    cases executed
    exact ⟨inv, before⟩
  refine call_outline (.build_client factory address)
    (R := Contract.Ended (fun client s => client = ⟨factory, address⟩ ∧ Before (Opened id url) φ s)
      fun _ => Left) rfl
    (Contract.stable_ended (fun _ => Contract.stable_and (Contract.stable_const _) (stable_before _ φ))
      fun _ => stable_left) (fun _ _ => trivial) ?_ fun built => ?_
  · rintro c s a s' inv before executed
    cases c with
    | raises e =>
        cases executed
        exact ⟨inv, before.left Opened.bound⟩
    | go =>
        cases executed
        exact ⟨inv, rfl, before⟩
  refine Contract.Outline.bind (try_outline built) fun client =>
    Contract.Outline.const_elim fun isBuilt => ?_
  subst isBuilt
  refine last_outline (call_outline _ rfl (fun _ => stable_before _ φ) (fun _ _ => trivial) ?_
    fun _ => Contract.Outline.ret fun _ _ holds => holds)
  rintro c s a s' inv ⟨opened, held, unpolled⟩ executed
  cases executed
  have same : Opened id url s.globals := opened
  exact ⟨⟨inv.one_open, inv.read, inv.rounds, inv.cancelled⟩,
    ⟨⟨same.engine, same.sessionmaker, same.here, same.only⟩, factory, rfl⟩, held, unpolled⟩

/-! ### Shutdown -/

/-- The poller is started, and the lifespan goes on. -/
structure Running (settings : Config.Settings) (id task : Nat) (s : Site) : Prop where
  parsed : s.settings = some settings
  root : s.root = ⟨settings.LOG_LEVEL, [.json]⟩
  ready : Ready id settings.POSTGRES_URL settings.RAY_ADDRESS s.globals
  alive : Alive task s
  only : PolledBy task s

theorem Running.up {settings : Config.Settings} {id task : Nat} {s : Site}
    (running : Running settings id task s) : Up s := by
  obtain ⟨isSettings, root, ⟨opened, factory, client⟩, alive, only⟩ := running
  exact ⟨⟨settings, id, factory, isSettings, opened, client, root⟩, task, alive, only⟩

theorem stable_running (settings : Config.Settings) (id task : Nat) :
    (siteContract B).Stable (Running settings id task) := by
  rintro s s' before after aside ⟨isSettings, root, ready, alive, only⟩
  refine ⟨aside.settings.trans isSettings, aside.root.trans root, ?_,
    stable_alive task s s' before after aside alive, stable_polledBy task s s' before after aside only⟩
  rw [aside.globals]
  exact ready

theorem running_messages {settings : Config.Settings} {id task : Nat} (s : Site)
    (messages : List String) (running : Running settings id task s) :
    Running settings id task { s with messages := messages } :=
  ⟨running.parsed, running.root, running.ready, running.alive, running.only⟩

/-- The task is cancelled, and may not have ended yet. -/
structure Stopping (id : Nat) (url : String) (task : Nat) (s : Site) : Prop where
  opened : Opened id url s.globals
  only : PolledBy task s

theorem stable_stopping (id : Nat) (url : String) (task : Nat) :
    (siteContract B).Stable (Stopping id url task) := by
  rintro s s' before after aside ⟨opened, only⟩
  refine ⟨?_, stable_polledBy task s s' before after aside only⟩
  rw [aside.globals]
  exact opened

/-- No condition on settings and logger. -/
def Whatever (_ : Option Config.Settings) (_ : RootLogger) : Prop := True

/-- **A poller task ends by its cancellation only.** -/
theorem outcome_cancelled {s : Site} (inv : Site.Inv B s) {task : Nat} {p : Process}
    (found : s.cluster.procs[task]? = some p) : p.outcome = .cancelled := by
  obtain ⟨role, alive, program⟩ := p
  cases role with
  | handler | worker | reader => rfl
  | poller =>
      cases alive with
      | false => rfl
      | true =>
          cases program with
          | ret a | call op next => rfl
          | raise e =>
              rcases inv.rounds task _ found with tame | cancelled
              · exact tame.raises.elim
              · cases cancelled
                rfl

/-- Awaiting a task: it has ended. -/
theorem join_exec {task : Nat} {c : LifeChoice} {s s' : Site} {a : Except PyException Unit}
    (executed : lifeExec D B (.join task) c s = some (a, s')) :
    s' = s ∧ ∃ p : Process, s.cluster.procs[task]? = some p ∧ p.polls = false ∧
      (a = .error .cancelled ∨ a = .error p.outcome) := by
  simp only [lifeExec] at executed
  split at executed
  · rename_i p found
    obtain ⟨ended, answered⟩ := Option.ite_none_left_eq_some.1 executed
    cases c with
    | raises e =>
        cases answered
        exact ⟨rfl, p, found, by simpa using ended, .inl rfl⟩
    | go =>
        cases answered
        exact ⟨rfl, p, found, by simpa using ended, .inr rfl⟩
  · cases executed

theorem stop_outline {settings : Config.Settings} {id task : Nat} :
    LifeOutline D B (stop_status_poller task) (Running settings id task)
      (fun _ => Before (Opened id settings.POSTGRES_URL) Whatever) Left := by
  refine call_outline (.cancel task) rfl (R := fun _ => Stopping id settings.POSTGRES_URL task)
    (fun _ => stable_stopping id _ task) (fun _ _ => trivial) ?_ fun _ => ?_
  · rintro c s a s' inv ⟨-, -, ⟨opened, -⟩, ⟨-, p, found, -⟩, only⟩ executed
    cases executed
    refine ⟨⟨inv.one_open, inv.read, inv.rounds, fun other isCancelled => ?_⟩, opened, only⟩
    rcases List.mem_cons.1 isCancelled with rfl | before
    · exact (List.getElem?_eq_some_iff.1 found).1
    · exact inv.cancelled other before
  refine Contract.Outline.catching (Y := fun e s => e = .cancelled ∧
    Before (Opened id settings.POSTGRES_URL) Whatever s) ?_ fun e => ?_
  · refine Contract.Outline.ask (D := fun (ended : Except PyException Unit) s =>
      ended = .error .cancelled ∧ Before (Opened id settings.POSTGRES_URL) Whatever s)
      (F := fun _ _ => False) ⟨?_, fun _ => Contract.stable_const False, fun _ _ _ => trivial, ?_, nofun⟩
      (fun _ _ _ never => never.elim) fun ended => ?_
    · exact fun _ => Contract.stable_and (Contract.stable_const _) (stable_before _ _)
    · rintro s c a s' inv ⟨opened, only⟩ - executed
      have joined : lifeExec D B (.join task) c s = some (a, s') := executed
      obtain ⟨rfl, p, found, ended, answer⟩ := join_exec joined
      rw [outcome_cancelled inv found, or_self] at answer
      refine ⟨inv, trivial, ⟨answer, opened, trivial, fun pid q found' => ?_⟩, nofun⟩
      -- the task has ended, and nobody else polls
      by_contra polls
      have same := only pid q found' (by simpa using polls)
      subst same
      cases found.symm.trans found'
      exact polls ended
    · refine Contract.Outline.const_elim fun isCancelled => ?_
      subst isCancelled
      exact Contract.Outline.raise fun _ _ holds => ⟨rfl, holds⟩
  · refine Contract.Outline.const_elim fun isCancelled => ?_
    subst isCancelled
    exact Contract.Outline.ret fun _ _ holds => holds

theorem reset_outline {id : Nat} {url : String} :
    LifeOutline D B RayClient.reset (Before (Opened id url) Whatever)
      (fun _ => Before (fun g => Opened id url g ∧ g.client = none ∧ g.client_factory = none) Whatever)
      Left := by
  refine call_outline (.set_client none) rfl
    (R := fun _ => Before (fun g => Opened id url g ∧ g.client = none) Whatever)
    (fun _ => stable_before _ _) (fun _ _ => trivial) ?_ fun _ => ?_
  · rintro c s a s' inv ⟨opened, held, unpolled⟩ executed
    cases executed
    exact ⟨⟨inv.one_open, inv.read, inv.rounds, inv.cancelled⟩,
      ⟨⟨opened.engine, opened.sessionmaker, opened.here, opened.only⟩, rfl⟩, held, unpolled⟩
  refine last_outline (call_outline _ rfl (fun _ => stable_before _ _) (fun _ _ => trivial) ?_
    fun _ => Contract.Outline.ret fun _ _ holds => holds)
  rintro c s a s' inv ⟨⟨opened, client⟩, held, unpolled⟩ executed
  cases executed
  exact ⟨⟨inv.one_open, inv.read, inv.rounds, inv.cancelled⟩,
    ⟨⟨opened.engine, opened.sessionmaker, opened.here, opened.only⟩, client, rfl⟩, held, unpolled⟩

/-- No client is bound, and no engine is open. -/
structure Cleared (g : Globals) : Prop where
  client : g.client = none
  client_factory : g.client_factory = none
  closed : ∀ i, ¬ g.IsOpen i

theorem dispose_outline {id : Nat} {url : String} :
    LifeOutline D B dispose
      (Before (fun g => Opened id url g ∧ g.client = none ∧ g.client_factory = none) Whatever)
      (fun _ => Down) Left := by
  refine call_outline .engine rfl (R := fun engine s => engine = some id ∧
      Before (fun g => Opened id url g ∧ g.client = none ∧ g.client_factory = none) Whatever s)
    (fun _ => Contract.stable_and (Contract.stable_const _) (stable_before _ _))
    (fun _ _ => trivial) ?_ fun engine => Contract.Outline.const_elim fun isBound => ?_
  · rintro c s a s' inv before executed
    cases executed
    exact ⟨inv, before.globals.1.engine, before⟩
  subst isBound
  refine await_outline (.dispose_engine id)
    (R := fun _ => Before (fun g => Closed g ∧ Cleared g) Whatever) (fun _ => stable_before _ _)
    stable_left (fun _ _ => trivial) ?_ (fun s before => before.left fun held => held.1.bound)
    fun _ => ?_
  · rintro c s a s' inv ⟨⟨opened, client, factory⟩, held, unpolled⟩ executed
    cases executed
    have closed := dispose_closes opened.bound opened.engine
    exact ⟨⟨closed.one_open, inv.read, inv.rounds, inv.cancelled⟩,
      ⟨⟨closed, client, factory, closed.none_open⟩, held, unpolled⟩, unpolled, closed.bound⟩
  refine call_outline (.set_engine none) rfl
    (R := fun _ => Before (fun g => Cleared g ∧ g.engine = none) Whatever)
    (fun _ => stable_before _ _) (fun _ _ => trivial) ?_ fun _ => ?_
  · rintro c s a s' inv ⟨⟨-, cleared⟩, held, unpolled⟩ executed
    cases executed
    exact ⟨⟨inv.one_open, inv.read, inv.rounds, inv.cancelled⟩,
      ⟨⟨cleared.client, cleared.client_factory, cleared.closed⟩, rfl⟩, held, unpolled⟩
  refine call_outline (.set_sessionmaker none) rfl (R := fun _ => Down) (fun _ => stable_down)
    (fun _ _ => trivial) ?_ fun _ => last_log_outline _ stable_down ?_
  · rintro c s a s' inv ⟨⟨cleared, engine⟩, held, unpolled⟩ executed
    cases executed
    exact ⟨⟨inv.one_open, inv.read, inv.rounds, inv.cancelled⟩, unpolled, engine, rfl, cleared.client,
      cleared.client_factory, cleared.closed⟩
  · intro s messages down
    exact ⟨down.unpolled, down.engine, down.sessionmaker, down.client, down.client_factory, down.closed⟩

theorem shutdown_outline {settings : Config.Settings} {id task : Nat} :
    LifeOutline D B (_lifespan_shutdown task) (Running settings id task) (fun _ => Down)
      Left := by
  refine log_outline _ (stable_running settings id task) running_messages ?_
  exact Contract.Outline.bind stop_outline fun _ => Contract.Outline.bind reset_outline fun _ =>
    dispose_outline

/-! ### Startup -/

/-- Every handler of the copy is removed: none is left. -/
theorem erase_all (handlers : List Handler) : handlers.foldl List.erase handlers = [] := by
  induction handlers with
  | nil => rfl
  | cons handler handlers ih =>
      rw [List.foldl_cons, List.erase_cons_head]
      exact ih

/-- However often it is called, there is one JSON handler. -/
theorem setup_logging_eq (level : String) (root : RootLogger) :
    setup_logging level root = ⟨level, [.json]⟩ := by
  rw [setup_logging, erase_all, List.nil_append]

/-- The settings are read. -/
def Parsed (settings : Config.Settings) (parsed : Option Config.Settings) (_ : RootLogger) : Prop :=
  parsed = some settings

/-- The settings are read, and the logger is set up after them. -/
def Logged (settings : Config.Settings) (parsed : Option Config.Settings) (root : RootLogger) :
    Prop :=
  parsed = some settings ∧ root = ⟨settings.LOG_LEVEL, [.json]⟩

/-- Reading the settings, once and for all. -/
theorem get_settings_exec {c : LifeChoice} {s s' : Site}
    {a : Except PyException Config.Settings} (inv : Site.Inv B s) (left : Left s)
    (executed : lifeExec D B .get_settings c s = some (a, s')) :
    Site.Inv B s' ∧
      Contract.Ended (fun settings => Before Bound (Parsed settings)) (fun _ => Left) a s' := by
  simp only [lifeExec] at executed
  cases parsed : s.settings with
  | some settings =>
      rw [parsed] at executed
      cases executed
      exact ⟨inv, left.bound, parsed, left.unpolled⟩
  | none =>
      cases read : Config.Settings.ofEnv B with
      | ok settings =>
          simp only [parsed, read] at executed
          cases executed
          refine ⟨⟨inv.one_open, fun settings' same => ?_, inv.rounds, inv.cancelled⟩, left.bound, rfl, left.unpolled⟩
          cases same
          exact read
      | error e =>
          simp only [parsed, read] at executed
          cases executed
          exact ⟨inv, left⟩

/-- **The poller is started** where nobody polls, and is the only one from there on. -/
theorem create_task_exec {settings : Config.Settings} {id : Nat} {s : Site} (inv : Site.Inv B s)
    (ready : Before (Ready id settings.POSTGRES_URL settings.RAY_ADDRESS) (Logged settings) s) :
    let s' := { s with cluster := s.cluster.spawn ⟨.poller, true, pollerRound D.rt⟩ }
    Site.Inv B s' ∧ Running settings id s.cluster.procs.length s' := by
  have here : (s.cluster.procs ++ [⟨.poller, true, pollerRound D.rt⟩])[s.cluster.procs.length]? =
      some (⟨.poller, true, pollerRound D.rt⟩ : Process) := List.getElem?_concat_length
  refine ⟨⟨inv.one_open, inv.read, ?_, ?_⟩, ready.held.1, ready.held.2, ready.globals, ⟨?_, ?_⟩, ?_⟩
  · intro pid p found
    rcases getElem?_append_one found with old | ⟨-, rfl⟩
    · exact inv.rounds pid p old
    · exact .inl (poller_round_tame D.rt)
  · intro task isCancelled
    have before := inv.cancelled task isCancelled
    simp only [State.spawn, List.length_append, List.length_singleton]
    omega
  · intro isCancelled
    exact Nat.lt_irrefl _ (inv.cancelled _ isCancelled)
  · exact ⟨_, here, rfl⟩
  · intro pid p found polls
    rcases getElem?_append_one found with old | ⟨new, -⟩
    · rw [ready.unpolled pid p old] at polls
      cases polls
    · exact new

/-- **The outline of a lifespan**, from what the last one left. -/
theorem lifespan_outline : LifeOutline D B lifespan Left (fun _ => Down) Left := by
  refine call_outline .get_settings rfl
    (Contract.stable_ended (fun settings => stable_before _ _) fun _ => stable_left)
    (fun _ _ => trivial) (fun _ _ _ _ => get_settings_exec) fun parsed => ?_
  refine Contract.Outline.bind (try_outline parsed) fun settings => ?_
  refine call_outline (.setup_logging settings.LOG_LEVEL) rfl
    (R := fun _ => Before Bound (Logged settings)) (fun _ => stable_before _ _)
    (fun _ _ => trivial) ?_ fun _ => log_outline _ (stable_before _ _) before_messages ?_
  · rintro c s a s' inv ⟨bound, parsed, unpolled⟩ executed
    cases executed
    exact ⟨⟨inv.one_open, inv.read, inv.rounds, inv.cancelled⟩, bound, ⟨parsed, setup_logging_eq _ _⟩, unpolled⟩
  refine Contract.Outline.bind (init_engine_outline _) fun _ => Contract.Outline.exists_elim fun id => ?_
  refine Contract.Outline.bind create_all_outline fun _ => ?_
  refine Contract.Outline.bind (ray_init_outline _) fun _ => ?_
  refine call_outline .create_task rfl (stable_running settings id) ?_ ?_ fun task => ?_
  · exact fun s before => before.unpolled
  · rintro c s a s' inv ready executed
    cases executed
    exact create_task_exec inv ready
  refine log_outline _ (stable_running settings id task) running_messages ?_
  refine Contract.Outline.ensuring (Q := fun _ => Running settings id task)
    (X := fun _ => Running settings id task) ?_ (fun _ => shutdown_outline) fun _ => ?_
  · refine last_outline (await_outline .serve (fun _ => stable_running settings id task)
      (stable_running settings id task) (fun s running => running.up) ?_ (fun _ running => running)
      fun _ => Contract.Outline.ret fun _ _ holds => holds)
    rintro c s a s' inv running executed
    cases executed
    exact ⟨inv, running, running⟩
  · exact shutdown_outline.weaken (fun _ _ holds => holds) (fun _ _ _ down => down.left)
      fun _ _ _ left => left

end Outlines

end KubeRayBatch.Cluster
