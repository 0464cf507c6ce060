/-
# Cluster.Service -- the service as its clients meet it

A state of the service is a state of the cluster, the status requests that are being answered,
and the record of all requests that arrived.  Handlers and readers are started by requests
that the front admits, and in no other way.

* `Serving.reachable`: so the service refines the cluster: its runs are runs of the cluster;
* `rows_authenticated`: every row is the row of exactly one request, which presented the API
  key and whose body represents it; and every reader and every look was asked for by a
  request that presented the key.
-/
import KubeRayBatch.Cluster.StatusReads
import KubeRayBatch.Cluster.Origin
import KubeRayBatch.Api.Http

namespace KubeRayBatch.Cluster

open Theory Theory.Schema Api Worker

set_option autoImplicit false

/-! ## Requests and their exchanges -/

/-- What became of a request. -/
inductive Outcome where
  /-- It did not get to a handler. -/
  | refused
  /-- A handler or a reader was started for it. -/
  | process (pid : Nat)
  /-- It looks at the status of a batch. -/
  | look (i : Nat)

structure Exchange where
  request : HttpRequest
  outcome : Outcome

/-- A status request on its way. -/
structure Look where
  batch_id : String
  program : Proc BatchObject

structure Service where
  cluster : State
  looks : List Look
  exchanges : List Exchange

namespace Service

def init : Service := ⟨.init, [], []⟩

def record (s : Service) (x : HttpRequest) (outcome : Outcome) : Service :=
  { s with exchanges := s.exchanges ++ [⟨x, outcome⟩] }

end Service

/-! ## Steps -/

inductive Happening where
  | arrive (x : HttpRequest)
  /-- A step of the cluster that starts no handler and no reader. -/
  | inner (e : Step)
  /-- A status request performs its next operation. -/
  | look (i : Nat) (event : Event)

/-- Requests start these. -/
def Step.requested : Step → Bool
  | .post _ | .fetch _ => true
  | _ => false

section Service

variable (D : Deployment) (A : Assumed) {lax : LaxInt} (F : FastAPI lax) (API_KEY : String)

def serve : Happening → Service → Option Service
  | .arrive x, s =>
      match front F API_KEY x with
      | none => some (s.record x .refused)
      | some (.create request) =>
          (step D (.post request) s.cluster).map fun cluster =>
            { s with cluster := cluster : Service }.record x (.process s.cluster.procs.length)
      | some (.results batch_id) =>
          (step D (.fetch batch_id) s.cluster).map fun cluster =>
            { s with cluster := cluster : Service }.record x (.process s.cluster.procs.length)
      | some (.status batch_id) =>
          some ({ s with looks := s.looks ++ [⟨batch_id, get_batch_status batch_id⟩] : Service }.record x
            (.look s.looks.length))
  | .inner e, s =>
      if e.requested then none
      else (step D e s.cluster).map fun cluster => { s with cluster := cluster }
  | .look i event, s =>
      match s.looks[i]? with
      | some look =>
          (Program.step (machine D.rd i) look.program event s.cluster.world).map fun next =>
            { s with
              cluster := { s.cluster with world := next.2 }
              looks := s.looks.set i { look with program := next.1 } }
      | none => none

/-- The operations of the API are answered by exceptions of `E` only. -/
def Broken (E : PyException → Prop) : Happening → Service → Prop
  | .inner (.act pid event), s => ∀ p, s.cluster.procs[pid]? = some p → p.role.isApi = true →
      ∀ e, event.thrown = some e → E e
  | .look _ event, _ => ∀ e, event.thrown = some e → E e
  | _, _ => True

/-- The steps that the assumptions leave open. -/
def admissible : Happening → Service → Bool
  | .inner e, s => permitted D A e s.cluster
  | _, _ => true

/-- **Every state** of the service that a run reaches. -/
inductive Serving (E : PyException → Prop) : Service → Prop where
  | init : Serving E .init
  | step {s s' : Service} {h : Happening} (before : Serving E s) (may : admissible D A h s = true)
      (broken : Broken E h s) (served : serve D F API_KEY h s = some s') : Serving E s'

end Service

variable {D : Deployment} {A : Assumed} {lax : LaxInt} {F : FastAPI lax} {API_KEY : String} {E : PyException → Prop}
variable {s s' : Service}

/-! ## The service refines the cluster -/

/-- Each look has been answered what `seen` says. -/
def Looks (E : PyException → Prop) (seen : Nat → String → Option Batch → Prop) (looks : List Look) :
    Prop :=
  ∀ (i : Nat) (look : Look), looks[i]? = some look →
    Looking look.batch_id E (seen i look.batch_id) look.program

theorem Looks.nil {seen : Nat → String → Option Batch → Prop} : Looks E seen [] := by
  intro i look found
  cases found

/-- **A step of the service** is a step of the cluster, or leaves the cluster alone. -/
theorem serve_cluster {seen : Nat → String → Option Batch → Prop} {h : Happening}
    (looks : Looks E seen s.looks) (may : admissible D A h s = true)
    (served : serve D F API_KEY h s = some s') :
    s'.cluster = s.cluster ∨ ∃ e, permitted D A e s.cluster = true ∧ step D e s.cluster = some s'.cluster := by
  cases h with
  | arrive x =>
      simp only [serve] at served
      split at served
      · cases served
        exact .inl rfl
      · rename_i request _
        cases served
        exact .inr ⟨.post request, rfl, rfl⟩
      · rename_i batch_id _
        cases served
        exact .inr ⟨.fetch batch_id, rfl, rfl⟩
      · cases served
        exact .inl rfl
  | inner e =>
      obtain ⟨-, inner⟩ := Option.ite_none_left_eq_some.1 served
      obtain ⟨cluster, stepped, rfl⟩ := Option.map_eq_some_iff.1 inner
      exact .inr ⟨e, may, stepped⟩
  | look i event =>
      simp only [serve] at served
      split at served
      · rename_i look found
        obtain ⟨⟨next, w⟩, stepped, rfl⟩ := Option.map_eq_some_iff.1 served
        have looking := looks i look found
        have still : w = s.cluster.world :=
          (looking (fun _ => True) fun _ _ => trivial).still (M := machine D.rd i)
            (fun _ _ _ => look_idle) stepped
        exact .inl (by rw [still])
      · cases served

/-- **What the looks were answered**, where the row of the table is always among it. -/
theorem serve_looks {seen seen' : Nat → String → Option Batch → Prop} {h : Happening}
    (looks : Looks E seen s.looks) (broken : Broken E h s)
    (current : ∀ i b, seen i b (s.cluster.world.table.get b))
    (wider : ∀ i b row, seen i b row → seen' i b row)
    (served : serve D F API_KEY h s = some s') : Looks E seen' s'.looks := by
  have before : Looks E seen' s.looks := fun i look found =>
    (looks i look found).mono (wider i look.batch_id)
  cases h with
  | arrive x =>
      simp only [serve] at served
      split at served
      · cases served
        exact before
      · cases served
        exact before
      · cases served
        exact before
      · cases served
        intro i look found
        rcases getElem?_append_one found with old | ⟨-, rfl⟩
        · exact before i look old
        · exact .start
  | inner e =>
      obtain ⟨-, inner⟩ := Option.ite_none_left_eq_some.1 served
      obtain ⟨cluster, stepped, rfl⟩ := Option.map_eq_some_iff.1 inner
      exact before
  | look i event =>
      simp only [serve] at served
      split at served
      · rename_i look found
        obtain ⟨⟨next, w⟩, stepped, rfl⟩ := Option.map_eq_some_iff.1 served
        intro j look' found'
        rcases getElem?_set_one found' with ⟨rfl, rfl⟩ | ⟨-, old⟩
        · have looking := looks j look found
          exact ((looking.step (current j look.batch_id) broken stepped).1).mono (wider j look.batch_id)
        · exact before j look' old
      · cases served

theorem Serving.looks (serving : Serving D A F API_KEY E s) : Looks E (fun _ _ _ => True) s.looks := by
  induction serving with
  | init => exact .nil
  | step before may broken served ih =>
      exact serve_looks ih broken (fun _ _ => trivial) (fun _ _ _ _ => trivial) served

/-- **Refinement**: the cluster of a service is a cluster that runs. -/
theorem Serving.reachable (served : Serving D A F API_KEY E s) : Reachable D A s.cluster := by
  induction served with
  | init => exact .init
  | step before may broken served ih =>
      rcases serve_cluster before.looks may served with same | ⟨e, allowed, stepped⟩
      · rw [same]
        exact ih
      · exact ih.step allowed stepped

/-- A state that a run of the service goes on to. -/
inductive Onward (D : Deployment) (A : Assumed) {lax : LaxInt} (F : FastAPI lax) (API_KEY : String)
    (E : PyException → Prop) (s : Service) : Service → Prop where
  | refl : Onward D A F API_KEY E s s
  | step {t t' : Service} {h : Happening} (before : Onward D A F API_KEY E s t)
      (may : admissible D A h t = true) (broken : Broken E h t)
      (served : serve D F API_KEY h t = some t') : Onward D A F API_KEY E s t'

theorem Onward.serving (onward : Onward D A F API_KEY E s s') (serving : Serving D A F API_KEY E s) :
    Serving D A F API_KEY E s' := by
  induction onward with
  | refl => exact serving
  | step before may broken served ih => exact ih.step may broken served

/-! ## Processes over a run -/

section Processes

variable {K : Nat → Process → Prop} {c c' : State}

/-- What holds of every process that starts, and is kept by its own steps, holds of every
process. -/
theorem step_processes {e : Step}
    (before : ∀ (pid : Nat) (p : Process), c.procs[pid]? = some p → K pid p)
    (starts : ∀ (pid : Nat) (p : Process), Starts D c.world p → K pid p)
    (kills : ∀ (pid : Nat) (p : Process), K pid p → K pid { p with alive := false })
    (acts : ∀ (pid : Nat) (event : Event) (p : Process) (next : Proc p.role.Result) (w : World),
      e = .act pid event → c.procs[pid]? = some p → p.alive = true →
        Program.step (machine D.rd pid) p.program event c.world = some (next, w) →
          K pid { p with program := next })
    (stepped : step D e c = some c') :
    ∀ (pid : Nat) (p : Process), c'.procs[pid]? = some p → K pid p := by
  have put {pid : Nat} {p p' : Process} (found : c.procs[pid]? = some p) (holds : K pid p') :
      ∀ (q : Nat) (r : Process), (c.procs.set pid p')[q]? = some r → K q r := by
    intro q r found'
    rcases getElem?_set_one found' with ⟨rfl, rfl⟩ | ⟨-, old⟩
    · exact holds
    · exact before q r old
  have spawn {p' : Process} (isStart : Starts D c.world p') :
      ∀ (q : Nat) (r : Process), (c.procs ++ [p'])[q]? = some r → K q r := by
    intro q r found
    rcases getElem?_append_one found with old | ⟨-, rfl⟩
    · exact before q r old
    · exact starts q r isStart
  cases stepped_of_step stepped with
  | act found alive performed procs =>
      rw [procs]
      exact put found (acts _ _ _ _ _ rfl found alive performed)
  | spawn isStart _ _ procs =>
      rw [procs]
      exact spawn isStart
  | age found aged _ _ procs =>
      rw [procs]
      refine put found ?_
      cases aged with
      | same => exact before _ _ found
      | dead => exact kills _ _ (before _ _ found)
      | resweeps => exact starts _ _ .poller
  | rest _ _ procs =>
      rw [procs]
      exact before

/-- The same, for a step of the service. -/
theorem serve_processes {h : Happening}
    (before : ∀ (pid : Nat) (p : Process), s.cluster.procs[pid]? = some p → K pid p)
    (starts : ∀ (pid : Nat) (p : Process), Starts D s.cluster.world p → K pid p)
    (kills : ∀ (pid : Nat) (p : Process), K pid p → K pid { p with alive := false })
    (acts : ∀ (pid : Nat) (event : Event) (p : Process) (next : Proc p.role.Result) (w : World),
      h = .inner (.act pid event) → s.cluster.procs[pid]? = some p → p.alive = true →
        Program.step (machine D.rd pid) p.program event s.cluster.world = some (next, w) →
          K pid { p with program := next })
    (served : serve D F API_KEY h s = some s') :
    ∀ (pid : Nat) (p : Process), s'.cluster.procs[pid]? = some p → K pid p := by
  cases h with
  | arrive x =>
      simp only [serve] at served
      split at served
      · cases served
        exact before
      · obtain ⟨c, stepped, rfl⟩ := Option.map_eq_some_iff.1 served
        exact step_processes before starts kills (fun _ _ _ _ _ isAct => by cases isAct) stepped
      · obtain ⟨c, stepped, rfl⟩ := Option.map_eq_some_iff.1 served
        exact step_processes before starts kills (fun _ _ _ _ _ isAct => by cases isAct) stepped
      · cases served
        exact before
  | inner e =>
      obtain ⟨-, inner⟩ := Option.ite_none_left_eq_some.1 served
      obtain ⟨c, stepped, rfl⟩ := Option.map_eq_some_iff.1 inner
      refine step_processes before starts kills ?_ stepped
      intro pid event p next w isAct
      exact acts pid event p next w (congrArg Happening.inner isAct)
  | look i event =>
      simp only [serve] at served
      split at served
      · obtain ⟨next, -, rfl⟩ := Option.map_eq_some_iff.1 served
        exact before
      · cases served

end Processes

/-! ## The record of the requests -/

/-- The roles that are started by requests. -/
def Role.requested : Role → Bool
  | .handler _ | .reader _ => true
  | _ => false

/-- A process keeps its role, and its number. -/
theorem step_roles {c c' : State} {e : Step} (stepped : step D e c = some c') :
    c'.procs.map (·.role) = c.procs.map (·.role) ++ e.starts := by
  have put {pid : Nat} {p p' : Process} (found : c.procs[pid]? = some p) (same : p'.role = p.role) :
      (c.procs.set pid p').map (·.role) = c.procs.map (·.role) ++ [] :=
    (map_set found same).trans (List.append_nil _).symm
  cases stepped_of_step stepped with
  | act found _ _ procs =>
      rw [procs]
      exact put found rfl
  | spawn _ starts _ procs =>
      rw [procs, starts]
      exact List.map_append
  | age found aged starts _ procs =>
      rw [procs, starts]
      exact put found aged.role
  | rest starts _ procs => rw [procs, starts, List.append_nil]

/-- The processes that no request starts. -/
theorem starts_unrequested {e : Step} (inner : e.requested = false) :
    ∀ role ∈ e.starts, role.requested = false := by
  cases e with
  | post | fetch => cases inner
  | poll | start =>
      intro role mem
      cases List.mem_singleton.1 mem
      rfl
  | _ => exact fun role mem => absurd mem List.not_mem_nil

section Records

variable {lax : LaxInt} (F : FastAPI lax) (API_KEY : String)

/-- The request presented the key, and asked for a process of this role. -/
def Grants (x : HttpRequest) : Role → Prop
  | .handler request => x.Presents F API_KEY ∧ x.call.Asks F (.create request)
  | .reader batch_id => x.Presents F API_KEY ∧ x.call.Asks F (.results batch_id)
  | _ => False

/-- What the record of a request says is so. -/
def Exchange.Sound (roles : List Role) (names : List String) (exchange : Exchange) : Prop :=
  match exchange.outcome with
  | .refused => front F API_KEY exchange.request = none
  | .process pid => ∃ role, roles[pid]? = some role ∧ Grants F API_KEY exchange.request role
  | .look i => ∃ batch_id, names[i]? = some batch_id ∧ exchange.request.Presents F API_KEY ∧
      exchange.request.call.Asks F (.status batch_id)

/-- **The record** of the requests: who was started, and who asked for it. -/
structure Recorded (roles : List Role) (names : List String) (exchanges : List Exchange) : Prop where
  sound : ∀ exchange ∈ exchanges, exchange.Sound F API_KEY roles names
  started : ∀ (pid : Nat) (role : Role), roles[pid]? = some role → role.requested = true →
    ∃ x, ⟨x, .process pid⟩ ∈ exchanges
  looked : ∀ i : Nat, i < names.length → ∃ x, ⟨x, .look i⟩ ∈ exchanges
  once : ∀ (x y : HttpRequest) (outcome : Outcome), outcome ≠ .refused →
    ⟨x, outcome⟩ ∈ exchanges → ⟨y, outcome⟩ ∈ exchanges → x = y

variable {F API_KEY} {roles : List Role} {names : List String} {exchanges : List Exchange}
variable {exchange : Exchange} {x : HttpRequest}

theorem Exchange.Sound.grow (sound : exchange.Sound F API_KEY roles names) (more : List Role)
    (more' : List String) : exchange.Sound F API_KEY (roles ++ more) (names ++ more') := by
  obtain ⟨request, outcome⟩ := exchange
  cases outcome with
  | refused => exact sound
  | process pid =>
      obtain ⟨role, found, grants⟩ := sound
      obtain ⟨bound, -⟩ := List.getElem?_eq_some_iff.1 found
      exact ⟨role, (List.getElem?_append_left bound).trans found, grants⟩
  | look i =>
      obtain ⟨batch_id, found, asks⟩ := sound
      obtain ⟨bound, -⟩ := List.getElem?_eq_some_iff.1 found
      exact ⟨batch_id, (List.getElem?_append_left bound).trans found, asks⟩

/-- A recorded process is one of the processes. -/
theorem Recorded.process_bound (recorded : Recorded F API_KEY roles names exchanges) {pid : Nat}
    (mem : ⟨x, .process pid⟩ ∈ exchanges) : pid < roles.length := by
  obtain ⟨role, found, -⟩ := recorded.sound _ mem
  exact (List.getElem?_eq_some_iff.1 found).1

theorem Recorded.look_bound (recorded : Recorded F API_KEY roles names exchanges) {i : Nat}
    (mem : ⟨x, .look i⟩ ∈ exchanges) : i < names.length := by
  obtain ⟨batch_id, found, -⟩ := recorded.sound _ mem
  exact (List.getElem?_eq_some_iff.1 found).1

/-- Processes that no request asks for are started. -/
theorem Recorded.aside (recorded : Recorded F API_KEY roles names exchanges) {more : List Role}
    (unrequested : ∀ role ∈ more, role.requested = false) :
    Recorded F API_KEY (roles ++ more) names exchanges where
  sound := fun exchange mem => by
    have grown := (recorded.sound exchange mem).grow more []
    rwa [List.append_nil] at grown
  started := by
    intro pid role found requested
    rw [List.getElem?_append] at found
    split at found
    · exact recorded.started pid role found requested
    · rw [unrequested role (List.mem_of_getElem? found)] at requested
      cases requested
  looked := recorded.looked
  once := recorded.once

/-- A request arrives, and starts what its outcome says. -/
theorem Recorded.arrive (recorded : Recorded F API_KEY roles names exchanges) (outcome : Outcome)
    (more : List Role) (more' : List String)
    (sound : Exchange.Sound F API_KEY (roles ++ more) (names ++ more') ⟨x, outcome⟩)
    (fresh : ∀ y, ⟨y, outcome⟩ ∈ exchanges → outcome = .refused)
    (starts : ∀ (pid : Nat) (role : Role), (roles ++ more)[pid]? = some role → roles.length ≤ pid →
      outcome = .process pid)
    (looks : ∀ i, names.length ≤ i → i < (names ++ more').length → outcome = .look i) :
    Recorded F API_KEY (roles ++ more) (names ++ more') (exchanges ++ [⟨x, outcome⟩]) where
  sound := by
    intro exchange mem
    rcases List.mem_append.1 mem with old | new
    · exact (recorded.sound exchange old).grow more more'
    · cases List.mem_singleton.1 new
      exact sound
  started := by
    intro pid role found requested
    by_cases old : pid < roles.length
    · rw [List.getElem?_append_left old] at found
      obtain ⟨y, mem⟩ := recorded.started pid role found requested
      exact ⟨y, List.mem_append_left _ mem⟩
    · refine ⟨x, List.mem_append_right _ ?_⟩
      rw [starts pid role found (Nat.le_of_not_lt old)]
      exact List.mem_singleton_self _
  looked := by
    intro i bound
    by_cases old : i < names.length
    · obtain ⟨y, mem⟩ := recorded.looked i old
      exact ⟨y, List.mem_append_left _ mem⟩
    · refine ⟨x, List.mem_append_right _ ?_⟩
      rw [looks i (Nat.le_of_not_lt old) bound]
      exact List.mem_singleton_self _
  once := by
    intro y z outcome' admitted mem mem'
    rcases List.mem_append.1 mem with old | new <;> rcases List.mem_append.1 mem' with old' | new'
    · exact recorded.once y z outcome' admitted old old'
    · cases List.mem_singleton.1 new'
      exact absurd (fresh y old) admitted
    · cases List.mem_singleton.1 new
      exact absurd (fresh z old') admitted
    · cases List.mem_singleton.1 new
      cases List.mem_singleton.1 new'
      rfl

/-- It does not get to a handler. -/
theorem Recorded.refused (recorded : Recorded F API_KEY roles names exchanges)
    (refused : front F API_KEY x = none) :
    Recorded F API_KEY roles names (exchanges ++ [⟨x, .refused⟩]) := by
  have next := recorded.arrive .refused [] [] refused (fun _ _ => rfl) ?_ ?_
  · simpa using next
  · intro pid role found late
    rw [List.append_nil] at found
    obtain ⟨bound, -⟩ := List.getElem?_eq_some_iff.1 found
    omega
  · intro i late bound
    rw [List.append_nil] at bound
    omega

/-- A process is started for it. -/
theorem Recorded.process (recorded : Recorded F API_KEY roles names exchanges) (role : Role)
    (grants : Grants F API_KEY x role) :
    Recorded F API_KEY (roles ++ [role]) names (exchanges ++ [⟨x, .process roles.length⟩]) := by
  have next := recorded.arrive (x := x) (.process roles.length) [role] [] ⟨role, List.getElem?_concat_length, grants⟩ ?_ ?_ ?_
  · simpa using next
  · exact fun y mem => absurd (recorded.process_bound mem) (Nat.lt_irrefl _)
  · intro pid role' found late
    rcases getElem?_append_one found with old | ⟨last, -⟩
    · obtain ⟨bound, -⟩ := List.getElem?_eq_some_iff.1 old
      omega
    · rw [last]
  · intro i late bound
    rw [List.append_nil] at bound
    omega

/-- It looks at a batch. -/
theorem Recorded.look (recorded : Recorded F API_KEY roles names exchanges) {batch_id : String}
    (presents : x.Presents F API_KEY) (asks : x.call.Asks F (.status batch_id)) :
    Recorded F API_KEY roles (names ++ [batch_id]) (exchanges ++ [⟨x, .look names.length⟩]) := by
  have next := recorded.arrive (x := x) (.look names.length) [] [batch_id] ⟨batch_id, List.getElem?_concat_length, presents, asks⟩ ?_ ?_ ?_
  · simpa using next
  · exact fun y mem => absurd (recorded.look_bound mem) (Nat.lt_irrefl _)
  · intro pid role found late
    rw [List.append_nil] at found
    obtain ⟨bound, -⟩ := List.getElem?_eq_some_iff.1 found
    omega
  · intro i late bound
    rw [List.length_append, List.length_singleton] at bound
    congr 1
    omega

end Records

namespace Service

def roles (s : Service) : List Role := s.cluster.procs.map (·.role)

def names (s : Service) : List String := s.looks.map (·.batch_id)

end Service

/-- **Every step** keeps the record. -/
theorem serve_recorded {h : Happening} (recorded : Recorded F API_KEY s.roles s.names s.exchanges)
    (served : serve D F API_KEY h s = some s') :
    Recorded F API_KEY s'.roles s'.names s'.exchanges := by
  cases h with
  | arrive x =>
      simp only [serve] at served
      split at served
      · rename_i refused
        cases served
        exact recorded.refused refused
      · rename_i request admitted
        obtain ⟨cluster, stepped, rfl⟩ := Option.map_eq_some_iff.1 served
        have next := recorded.process (.handler request) (FastAPI.admits_asks admitted)
        have started : cluster.procs.map (·.role) = s.roles ++ [.handler request] := step_roles stepped
        rwa [← started, Service.roles, List.length_map] at next
      · rename_i batch_id admitted
        obtain ⟨cluster, stepped, rfl⟩ := Option.map_eq_some_iff.1 served
        have next := recorded.process (.reader batch_id) (FastAPI.admits_asks admitted)
        have started : cluster.procs.map (·.role) = s.roles ++ [.reader batch_id] := step_roles stepped
        rwa [← started, Service.roles, List.length_map] at next
      · rename_i batch_id admitted
        cases served
        obtain ⟨presents, asks⟩ := FastAPI.admits_asks admitted
        have next := recorded.look presents asks
        rw [Service.names, List.length_map] at next
        show Recorded F API_KEY s.roles ((s.looks ++ [_]).map _) _
        rwa [List.map_append]
  | inner e =>
      obtain ⟨unrequested, inner⟩ := Option.ite_none_left_eq_some.1 served
      obtain ⟨cluster, stepped, rfl⟩ := Option.map_eq_some_iff.1 inner
      have next := recorded.aside (starts_unrequested (Bool.eq_false_iff.2 unrequested))
      rwa [Service.roles, ← step_roles stepped] at next
  | look i event =>
      simp only [serve] at served
      split at served
      · rename_i look found
        obtain ⟨next, -, rfl⟩ := Option.map_eq_some_iff.1 served
        have same : (s.looks.set i { look with program := next.1 }).map (·.batch_id) = s.names :=
          map_set found rfl
        show Recorded F API_KEY s.roles ((s.looks.set i { look with program := next.1 }).map _) _
        rwa [same]
      · cases served

theorem Serving.recorded (serving : Serving D A F API_KEY E s) :
    Recorded F API_KEY s.roles s.names s.exchanges := by
  induction serving with
  | init => exact ⟨by simp [Service.init], by simp [Service.roles, Service.init, State.init],
      by simp [Service.names, Service.init], by simp [Service.init]⟩
  | step before may broken served ih => exact serve_recorded ih served

/-! ## Nothing without the key -/

/-- The request of this exchange posted the row: it presented the key, and its body
represents what the row was made from. -/
def PostedBy {lax : LaxInt} (F : FastAPI lax) (API_KEY : String) (s : Service) (x : HttpRequest) (row : Batch) : Prop :=
  ∃ pid request, ⟨x, .process pid⟩ ∈ s.exchanges ∧ x.Presents F API_KEY ∧
    x.call.Asks F (.create request) ∧ Makes s.cluster.world pid request row.id row

/-- The handler of a request is on record. -/
theorem Serving.poster (serving : Serving D A F API_KEY E s) {row : Batch}
    (mem : row ∈ s.cluster.world.table) : ∃! x, PostedBy F API_KEY s x row := by
  have recorded := serving.recorded
  obtain ⟨pid, ⟨request, ⟨p, found, isHandler⟩, makes⟩, -⟩ := poster_unique serving.reachable mem
  have role : s.roles[pid]? = some (.handler request) := by
    rw [Service.roles, List.getElem?_map, found, Option.map_some, isHandler]
  obtain ⟨x, recordedAs⟩ := recorded.started pid _ role rfl
  obtain ⟨role', found', grants⟩ := recorded.sound _ recordedAs
  cases role.symm.trans found'
  refine ⟨x, ⟨pid, request, recordedAs, grants.1, grants.2, makes⟩, ?_⟩
  rintro y ⟨pid', request', recordedAs', -, -, makes'⟩
  cases makes.owner.symm.trans makes'.owner
  exact recorded.once y x _ (by simp) recordedAs' recordedAs

/-- A request without the key is recorded, and changes nothing else. -/
theorem locked_out {x : HttpRequest} (absent : ¬x.Presents F API_KEY)
    (served : serve D F API_KEY (.arrive x) s = some s') : s' = s.record x .refused := by
  simp only [serve, front_absent absent] at served
  exact (Option.some.inj served).symm

/-- **key theorem.** Nothing happens without the API key: every row, and with it every job, was
posted by exactly one request, which presented the key and whose body represents it; every
reader and every look was asked for with the key; and for a request without it the dependency
raises a 401, and nothing is started or changed. -/
theorem rows_authenticated (serving : Serving D A F API_KEY E s) :
    (∀ row ∈ s.cluster.world.table, ∃! x, PostedBy F API_KEY s x row) ∧
      (∀ job ∈ s.cluster.world.jobs, ∃ row ∈ s.cluster.world.table,
        job.entrypoint = entrypointOf row.id row.model row.max_tokens) ∧
      (∀ (pid : Nat) (b : String), s.roles[pid]? = some (.reader b) →
        ∃ x, ⟨x, .process pid⟩ ∈ s.exchanges ∧ x.Presents F API_KEY ∧ x.call = .results b) ∧
      (∀ (i : Nat) (b : String), s.names[i]? = some b →
        ∃ x, ⟨x, .look i⟩ ∈ s.exchanges ∧ x.Presents F API_KEY ∧ x.call = .status b) ∧
      ∀ (x : HttpRequest) (s' : Service), ¬x.Presents F API_KEY →
        serve D F API_KEY (.arrive x) s = some s' →
          s' = s.record x .refused ∧ ∃ line detail,
            require_api_key API_KEY (F.api_key_header x) = .error (line, _unauthorized detail) := by
  have recorded := serving.recorded
  have safe := reachable_inv serving.reachable
  refine ⟨fun row mem => serving.poster mem, ?_, ?_, ?_,
    fun x s' absent served => ⟨locked_out absent served, HttpRequest.unauthorized absent⟩⟩
  · intro job mem
    obtain ⟨b, mine⟩ := safe.world.owned job mem
    obtain ⟨row, isRow⟩ := (safe.world.sound b).job_row mine
    obtain ⟨isMem, rfl⟩ := mem_of_view isRow
    exact ⟨row, isMem, ((safe.world.sound row.id).job row job isRow mine).entrypoint⟩
  · intro pid b role
    obtain ⟨x, recordedAs⟩ := recorded.started pid _ role rfl
    obtain ⟨role', found', grants⟩ := recorded.sound _ recordedAs
    cases role.symm.trans found'
    exact ⟨x, recordedAs, grants⟩
  · intro i b name
    obtain ⟨x, recordedAs⟩ := recorded.looked i (List.getElem?_eq_some_iff.1 name).1
    obtain ⟨b', found', presents, asks⟩ := recorded.sound _ recordedAs
    cases name.symm.trans found'
    exact ⟨x, recordedAs, presents, asks⟩

/-! ## Runs to evaluate -/

section Play

variable {policy : Op → World → Event} {t : Service} {c : State}

/-- A step of the cluster that no request asks for. -/
theorem Onward.inner (onward : Onward D A F API_KEY E s t) {e : Step} (inner : e.requested = false)
    (may : permitted D A e t.cluster = true) (broken : Broken E (.inner e) t)
    (stepped : Cluster.step D e t.cluster = some c) :
    Onward D A F API_KEY E s { t with cluster := c } := by
  refine onward.step (h := .inner e) may broken ?_
  simp only [serve, inner, Bool.false_eq_true, if_false, stepped, Option.map_some]

/-- One process goes on, and nothing fails. -/
theorem Onward.drive (onward : Onward D A F API_KEY E s t) (calm : ∀ op w, (policy op w).thrown = none)
    {pid count : Nat} (driven : Cluster.drive D A policy pid count t.cluster = some c) :
    Onward D A F API_KEY E s { t with cluster := c } := by
  induction count generalizing t with
  | zero =>
      cases driven
      exact onward
  | succ count ih =>
      simp only [Cluster.drive] at driven
      split at driven
      · rename_i e next
        obtain ⟨may, performed⟩ := Option.ite_none_right_eq_some.1 driven
        obtain ⟨c', stepped, later⟩ := Option.bind_eq_some_iff.1 performed
        obtain ⟨op, rfl⟩ : ∃ op, e = .act pid (policy op t.cluster.world) := by
          unfold nextEvent at next
          split at next
          · split at next
            · cases next
              exact ⟨_, rfl⟩
            · cases next
          · cases next
        refine ih (t := { t with cluster := c' }) (onward.inner rfl may ?_ stepped) later
        intro p _ _ e thrown
        rw [calm] at thrown
        cases thrown
      · cases driven
        exact onward

/-- A scene without requests, in which every process acts by the policy. -/
def Scene.inside : Scene → Bool
  | .one (.act _ _) => false
  | .one e => !e.requested
  | .runs _ _ => true

theorem Onward.play (onward : Onward D A F API_KEY E s t) (calm : ∀ op w, (policy op w).thrown = none)
    {scenes : List Scene} (inside : scenes.all Scene.inside = true)
    (played : Cluster.play D A policy scenes t.cluster = some c) :
    Onward D A F API_KEY E s { t with cluster := c } := by
  induction scenes generalizing t with
  | nil =>
      cases played
      exact onward
  | cons scene scenes ih =>
      obtain ⟨here, later⟩ := Bool.and_eq_true_iff.1 (List.all_cons.symm.trans inside)
      cases scene with
      | one e =>
          obtain ⟨may, played⟩ := Option.ite_none_right_eq_some.1 played
          obtain ⟨c', stepped, played⟩ := Option.bind_eq_some_iff.1 played
          refine ih (t := { t with cluster := c' }) ?_ later played
          cases e with
          | act | post | fetch => cases here
          | _ => exact onward.inner rfl may trivial stepped
      | runs pid count =>
          obtain ⟨c', driven, played⟩ := Option.bind_eq_some_iff.1 played
          exact ih (t := { t with cluster := c' }) (onward.drive calm driven) later played

/-- A look performs up to `count` operations. -/
def watch (D : Deployment) (policy : Op → World → Event) (i : Nat) : Nat → Service → Option Service
  | 0, s => some s
  | count + 1, s =>
      match s.looks[i]? with
      | some ⟨_, .call op _⟩ =>
          (serve D (.plain strictInt) "k" (.look i (policy op s.cluster.world)) s).bind (watch D policy i count)
      | _ => some s

theorem Onward.watch (onward : Onward D A F API_KEY E s t) (calm : ∀ op w, (policy op w).thrown = none)
    {i count : Nat} (watched : Cluster.watch D policy i count t = some s') :
    Onward D A F API_KEY E s s' := by
  induction count generalizing t with
  | zero =>
      cases watched
      exact onward
  | succ count ih =>
      simp only [Cluster.watch] at watched
      split at watched
      · rename_i op _ _
        obtain ⟨t', served, later⟩ := Option.bind_eq_some_iff.1 watched
        -- a look does not depend on the key
        have also : serve D F API_KEY (.look i (policy op t.cluster.world)) t = some t' := served
        refine ih (onward.step rfl ?_ also) later
        intro e thrown
        rw [calm] at thrown
        cases thrown
      · cases watched
        exact onward

/-- A request is admitted, and its handler started. -/
theorem Onward.posts (onward : Onward D A F API_KEY E s t) {x : HttpRequest}
    {request : CreateBatchRequest} (admitted : front F API_KEY x = some (.create request)) :
    Onward D A F API_KEY E s
      (Service.record
        { t with cluster := t.cluster.spawn ⟨.handler request, true, create_batch D.settings request⟩ }
        x (.process t.cluster.procs.length)) := by
  refine onward.step (h := .arrive x) rfl trivial ?_
  simp only [serve, admitted]
  rfl

/-- A request fetches the results of a batch. -/
theorem Onward.reads (onward : Onward D A F API_KEY E s t) {x : HttpRequest} {batch_id : String}
    (admitted : front F API_KEY x = some (.results batch_id)) :
    Onward D A F API_KEY E s
      (Service.record
        { t with
          cluster := t.cluster.spawn ⟨.reader batch_id, true, streamed_results D.settings batch_id⟩ }
        x (.process t.cluster.procs.length)) := by
  refine onward.step (h := .arrive x) rfl trivial ?_
  simp only [serve, admitted]
  rfl

/-- A request looks at a batch. -/
theorem Onward.asks (onward : Onward D A F API_KEY E s t) {x : HttpRequest} {batch_id : String}
    (admitted : front F API_KEY x = some (.status batch_id)) :
    Onward D A F API_KEY E s
      (Service.record { t with looks := t.looks ++ [⟨batch_id, get_batch_status batch_id⟩] }
        x (.look t.looks.length)) := by
  refine onward.step (h := .arrive x) rfl trivial ?_
  simp only [serve, admitted]

end Play

/-- The policy of a sunny day throws nothing. -/
theorem sunny_calm (op : Op) (w : World) : (sunny op w).thrown = none := by
  unfold sunny
  split <;> try rfl
  unfold smooth
  split <;> rfl

/-- A request with the key "k". -/
def sampleHttp (call : Endpoint) : HttpRequest := ⟨[("x-api-key", [107])], call⟩

theorem sampleHttp_front (call : Endpoint) :
    front (.plain strictInt) "k" (sampleHttp call) = call.handed (.collecting strictInt) asciiJson :=
  plain_front (require_api_key_ok.2 ⟨rfl, by decide⟩)

/-- The body that a client sends for a request. -/
def sampleCall (request : CreateBatchRequest) : Endpoint :=
  .create (asciiBytes (Json.encode .spaced request.body))

/-- The service after a request has arrived, and some scenes were played. -/
theorem sample_serving {A : Assumed} {request : CreateBatchRequest} {scenes : List Scene} {c : State}
    (inside : scenes.all Scene.inside = true)
    (played : Cluster.play sampleDeployment A sunny (.one (.post request) :: scenes) .init = some c) :
    Serving sampleDeployment A (.plain strictInt) "k" E
      ⟨c, [], [⟨sampleHttp (sampleCall request), .process 0⟩]⟩ := by
  have start : Onward sampleDeployment A (.plain strictInt) "k" E .init .init := .refl
  have posted := start.posts ((sampleHttp_front _).trans (handed_body request))
  exact (posted.play sunny_calm inside played).serving .init

/-- A row of three prompts, and a request with another key. -/
theorem rows_authenticated_opened : ∃ s : Service,
    Serving sampleDeployment .all (.plain strictInt) "k" (fun _ => True) s ∧
      s.cluster.world.table.map (·.input_count) = [3] ∧
      (∀ row ∈ s.cluster.world.table, ∃! x, PostedBy (.plain strictInt) "k" s x row) ∧
      ∀ s', serve sampleDeployment (.plain strictInt) "k" (.arrive ⟨[("x-api-key", [108])], sampleCall hiRequest⟩)
        s = some s' → s'.cluster = s.cluster := by
  have value : (play sampleDeployment .all sunny (openingOf mixedRequest) .init).map
      (fun s => s.world.table.map (·.input_count)) = some [3] := by decide +kernel
  obtain ⟨c, played, counts⟩ := Option.map_eq_some_iff.1 value
  have serving := sample_serving (E := fun _ => True) rfl played
  have authenticated := rows_authenticated serving
  refine ⟨_, serving, counts, authenticated.1, fun s' served => ?_⟩
  have absent : ¬(⟨[("x-api-key", [108])], sampleCall hiRequest⟩ : HttpRequest).Presents
      (.plain strictInt) "k" := by
    intro presents
    exact absurd (require_api_key_ok.1 presents).1 (by decide)
  rw [(authenticated.2.2.2.2 _ s' absent served).1]
  rfl

end KubeRayBatch.Cluster
