/-
# Api.Lifespan -- startup and shutdown of the API process

The module-level names of `db` and `ray_client` are the only state that the routes and the
poller share besides the database: an engine and its session maker, a Ray client and the
factory that builds one.  `lifespan` binds them, starts the poller, serves, and takes everything
down again, statement by statement; an `await` may fail or be cancelled anywhere.

Engines are numbered in the order in which they are created, and stay in the list when they
are disposed.
-/
import KubeRayBatch.Theory.Exceptions
import KubeRayBatch.Api.Config
import KubeRayBatch.Api.Escapes

namespace KubeRayBatch.Api

open Theory

set_option autoImplicit false

/-! ## What the process holds -/

structure Engine where
  url : String
  disposed : Bool
  deriving DecidableEq, Repr

/-- A bound client; `none` is the default factory. -/
structure Client where
  factory : Option String
  address : String
  deriving DecidableEq, Repr

/-- The module-level names, and every engine so far. -/
structure Globals where
  engines : List Engine
  engine : Option Nat
  sessionmaker : Option Nat
  client : Option Client
  client_factory : Option String
  deriving DecidableEq, Repr

def Globals.fresh : Globals := ⟨[], none, none, none, none⟩

/-- The engines that are open. -/
def Globals.IsOpen (g : Globals) (i : Nat) : Prop :=
  ∃ engine : Engine, g.engines[i]? = some engine ∧ engine.disposed = false

/-- Engine and session maker are bound together, and no other engine is open. -/
structure Bound (g : Globals) : Prop where
  sessionmaker : g.sessionmaker = g.engine
  only : ∀ i, g.IsOpen i → g.engine = some i

/-- This engine is bound, and open. -/
structure Opened (id : Nat) (url : String) (g : Globals) : Prop where
  engine : g.engine = some id
  sessionmaker : g.sessionmaker = some id
  here : g.engines[id]? = some ⟨url, false⟩
  only : ∀ i, g.IsOpen i → i = id

/-- An engine among those with one of them disposed. -/
theorem isOpen_dispose {g : Globals} {id i : Nat}
    (isOpen : Globals.IsOpen { g with engines := g.engines.modify id fun engine =>
      { engine with disposed := true } } i) : g.IsOpen i ∧ i ≠ id := by
  obtain ⟨engine, found, undisposed⟩ := isOpen
  simp only [List.getElem?_modify] at found
  obtain ⟨old, found', same⟩ := Option.map_eq_some_iff.1 found
  by_cases here : id = i
  · subst here
    simp only at same
    subst same
    cases undisposed
  · rw [if_neg here] at same
    subst same
    exact ⟨⟨old, found', undisposed⟩, Ne.symm here⟩

/-- An engine among those with a new one. -/
theorem isOpen_create {g : Globals} {url : String} {i : Nat}
    (isOpen : Globals.IsOpen { g with engines := g.engines ++ [⟨url, false⟩] } i) :
    g.IsOpen i ∨ i = g.engines.length := by
  obtain ⟨engine, found, undisposed⟩ := isOpen
  rw [List.getElem?_append] at found
  split at found
  · exact .inl ⟨engine, found, undisposed⟩
  · obtain ⟨bound, -⟩ := List.getElem?_eq_some_iff.1 found
    rw [List.length_singleton] at bound
    right
    omega

/-- The names are bound together, and no engine is open. -/
structure Closed (g : Globals) : Prop where
  sessionmaker : g.sessionmaker = g.engine
  none_open : ∀ i, ¬ g.IsOpen i

theorem Closed.bound {g : Globals} (closed : Closed g) : Bound g :=
  ⟨closed.sessionmaker, fun i isOpen => (closed.none_open i isOpen).elim⟩

theorem Opened.bound {g : Globals} {id : Nat} {url : String} (opened : Opened id url g) : Bound g :=
  ⟨opened.sessionmaker.trans opened.engine.symm, fun i isOpen => by rw [opened.only i isOpen, opened.engine]⟩

/-- Disposing the bound engine. -/
theorem dispose_closes {g : Globals} {id : Nat} (bound : Bound g) (isBound : g.engine = some id) :
    Closed { g with engines := g.engines.modify id fun engine => { engine with disposed := true } } where
  sessionmaker := bound.sessionmaker
  none_open := by
    intro i isOpen
    obtain ⟨open_before, other⟩ := isOpen_dispose isOpen
    exact other (Option.some.inj ((bound.only i open_before).symm.trans isBound))

/-- A new engine, which is bound to nothing yet. -/
structure Created (id : Nat) (url : String) (g : Globals) : Prop where
  here : g.engines[id]? = some ⟨url, false⟩
  only : ∀ i, g.IsOpen i → i = id

theorem Closed.create {g : Globals} (closed : Closed g) (url : String) :
    Created g.engines.length url { g with engines := g.engines ++ [⟨url, false⟩] } where
  here := List.getElem?_concat_length
  only := by
    intro i isOpen
    rcases isOpen_create isOpen with old | new
    · exact (closed.none_open i old).elim
    · exact new

theorem Created.one_open {g : Globals} {id : Nat} {url : String} (created : Created id url g)
    (i j : Nat) (first : g.IsOpen i) (second : g.IsOpen j) : i = j :=
  (created.only i first).trans (created.only j second).symm

theorem Closed.one_open {g : Globals} (closed : Closed g) (i j : Nat) (first : g.IsOpen i)
    (_ : g.IsOpen j) : i = j :=
  (closed.none_open i first).elim

/-! ## The logger -/

inductive Handler where
  | json
  | other
  deriving DecidableEq, Repr

/-- The root logger. -/
structure RootLogger where
  level : String
  handlers : List Handler
  deriving DecidableEq, Repr

def RootLogger.fresh : RootLogger := ⟨"WARNING", []⟩

/-- Replace the root handlers with a JSON one. -/
def setup_logging (level : String) (root : RootLogger) : RootLogger :=
  -- every handler of a copy of the list is removed, and then there is none
  ⟨level, root.handlers.foldl List.erase root.handlers ++ [.json]⟩

/-! ## Operations -/

inductive LifeOp where
  | get_settings
  | setup_logging (level : String)
  | log (message : String)
  /-- Read `_engine`. -/
  | engine
  | dispose_engine (engine : Nat)
  | create_async_engine (url : String)
  | set_engine (engine : Option Nat)
  | set_sessionmaker (engine : Option Nat)
  | create_tables (engine : Nat)
  /-- Read `_client_factory`. -/
  | client_factory
  | build_client (factory : Option String) (address : String)
  | set_client (client : Option Client)
  | set_client_factory (factory : Option String)
  | create_task
  /-- The `yield` of the lifespan. -/
  | serve
  | cancel (task : Nat)
  /-- `await task` -/
  | join (task : Nat)
  deriving DecidableEq

/-- A call without an `await` answers with its result or its exception. -/
def LifeOp.Res : LifeOp → Type
  | .get_settings => Except PyException Config.Settings
  | .engine => Option Nat
  | .create_async_engine _ => Except PyException Nat
  | .client_factory => Option String
  | .build_client _ _ => Except PyException Client
  | .create_task => Nat
  | .join _ => Except PyException Unit
  | _ => Unit

/-- The operations with an `await`. -/
def LifeOp.fallible : LifeOp → Bool
  | .dispose_engine _ | .create_tables _ | .serve => true
  | _ => false

abbrev Life := Program LifeOp LifeOp.Res PyException

def ask_life (op : LifeOp) : Life op.Res := Program.ask op

/-- A call that may raise. -/
def try_life {α : Type} : Except PyException α → Life α
  | .ok a => .ret a
  | .error e => .raise e

/-! ## `db` -/

def init_engine (url : String) : Life Unit := do
  let engine : Option Nat ← ask_life .engine
  match engine with
  | some engine => ask_life (.dispose_engine engine)
  | none => pure ()
  ask_life (.log "db: initializing engine")
  let created : Except PyException Nat ← ask_life (.create_async_engine url)
  let engine ← try_life created
  ask_life (.set_engine (some engine))
  ask_life (.set_sessionmaker (some engine))

def create_all : Life Unit := do
  let engine : Option Nat ← ask_life .engine
  match engine with
  | none => .raise (.runtimeError "db.init_engine(...) must be called first")
  | some engine =>
      ask_life (.create_tables engine)
      ask_life (.log "db: schema ensured")

def dispose : Life Unit := do
  let engine : Option Nat ← ask_life .engine
  match engine with
  | none => pure ()
  | some engine =>
      ask_life (.dispose_engine engine)
      ask_life (.set_engine none)
      ask_life (.set_sessionmaker none)
      ask_life (.log "db: engine disposed")

/-! ## `ray_client` -/

def RayClient.init (address : String) : Life Unit := do
  let factory : Option String ← ask_life .client_factory
  ask_life (.log ("ray_client: initializing against " ++ address))
  let built : Except PyException Client ← ask_life (.build_client factory address)
  let client ← try_life built
  ask_life (.set_client (some client))

def RayClient.reset : Life Unit := do
  ask_life (.set_client none)
  ask_life (.set_client_factory none)

/-! ## The poller task -/

def start_status_poller : Life Nat := ask_life .create_task

/-- Cancel the task and await its end, which is a cancellation. -/
def stop_status_poller (task : Nat) : Life Unit := do
  ask_life (.cancel task)
  Program.catching
    (do
      let ended : Except PyException Unit ← ask_life (.join task)
      try_life ended)
    fun exc => if exc.isinstance .cancelledError then some (pure ()) else none

/-! ## The lifespan -/

def _lifespan_shutdown (poller_task : Nat) : Life Unit := do
  ask_life (.log "lifespan: shutdown begin")
  stop_status_poller poller_task
  RayClient.reset
  dispose

def lifespan : Life Unit := do
  let parsed : Except PyException Config.Settings ← ask_life .get_settings
  let settings ← try_life parsed
  ask_life (.setup_logging settings.LOG_LEVEL)
  ask_life (.log ("lifespan: starting (ray=" ++ settings.RAY_ADDRESS ++
    ", results_dir=" ++ settings.RESULTS_DIR ++ ")"))
  init_engine settings.POSTGRES_URL
  create_all
  RayClient.init settings.RAY_ADDRESS
  let poller_task ← start_status_poller
  ask_life (.log "lifespan: startup complete")
  Program.ensuring (ask_life .serve) (_lifespan_shutdown poller_task)

end KubeRayBatch.Api
