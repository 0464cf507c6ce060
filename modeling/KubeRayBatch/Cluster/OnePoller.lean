/-
# Cluster.OnePoller -- every run of the API process

What the cluster does beside the lifespan leaves the lifespan's business alone, so the outline
of the lifespan holds along every run of the process.

* `single_poller`: whatever this process does, as long as it is the only one, is a run of the
  cluster in which no poller is started while another one is alive;
* `over_forever`: so a row that is over stays as it is, through every restart;
* `lifespan_safe`: as long as it serves, engine, session maker and client are bound to what the
  settings say and its poller is alive; a lifespan that has ended leaves no poller, and one
  that returned leaves nothing bound; never is more than one engine open.
-/
import KubeRayBatch.Cluster.LifespanOutline

namespace KubeRayBatch.Cluster

open Theory Api

set_option autoImplicit false

/-! ## What the others do -/

section Others

variable {D : Deployment} {B : Config.BaseSettings} {s : Site} {w : World}

/-- One process goes on. -/
theorem aside_set {pid : Nat} {p p' : Process} (found : s.cluster.procs[pid]? = some p)
    (polls : p'.polls = true → p.polls = true)
    (going : pid ∉ s.cancelled → p.polls = true → p'.polls = true) :
    Aside s { s with cluster := ⟨w, s.cluster.procs.set pid p'⟩ } where
  globals := rfl
  settings := rfl
  root := rfl
  cancelled := rfl
  polls := by
    intro i q found' isPolling
    rcases getElem?_set_one found' with ⟨rfl, rfl⟩ | ⟨-, old⟩
    · exact ⟨p, found, polls isPolling⟩
    · exact ⟨q, old, isPolling⟩
  going := by
    intro i q uncancelled found' isPolling
    obtain rfl | other := eq_or_ne pid i
    · obtain ⟨bound, -⟩ := List.getElem?_eq_some_iff.1 found
      cases found.symm.trans found'
      exact ⟨p', List.getElem?_set_self bound, going uncancelled isPolling⟩
    · exact ⟨q, (List.getElem?_set_ne other).trans found', isPolling⟩

/-- A process is started that is no poller. -/
theorem aside_append {p : Process} (idle : p.polls = false) :
    Aside s { s with cluster := ⟨w, s.cluster.procs ++ [p]⟩ } where
  globals := rfl
  settings := rfl
  root := rfl
  cancelled := rfl
  polls := by
    intro i q found polls
    rcases getElem?_append_one found with old | ⟨-, rfl⟩
    · exact ⟨q, old, polls⟩
    · rw [idle] at polls
      cases polls
  going := by
    intro i q _ found polls
    obtain ⟨bound, -⟩ := List.getElem?_eq_some_iff.1 found
    exact ⟨q, (List.getElem?_append_left bound).trans found, polls⟩

theorem Site.Inv.set (inv : Site.Inv B s) (pid : Nat) {p' : Process} (round : Round p') :
    Site.Inv B { s with cluster := ⟨w, s.cluster.procs.set pid p'⟩ } where
  one_open := inv.one_open
  read := inv.read
  rounds := by
    intro i q found
    rcases List.mem_or_eq_of_mem_set (List.mem_of_getElem? found) with old | rfl
    · obtain ⟨j, old⟩ := List.getElem?_of_mem old
      exact inv.rounds j q old
    · exact round
  cancelled := by
    intro task isCancelled
    rw [List.length_set]
    exact inv.cancelled task isCancelled

theorem Site.Inv.append (inv : Site.Inv B s) {p : Process} (round : Round p) :
    Site.Inv B { s with cluster := ⟨w, s.cluster.procs ++ [p]⟩ } where
  one_open := inv.one_open
  read := inv.read
  rounds := by
    intro i q found
    rcases getElem?_append_one found with old | ⟨-, rfl⟩
    · exact inv.rounds i q old
    · exact round
  cancelled := by
    intro task isCancelled
    rw [List.length_append]
    exact Nat.lt_add_right _ (inv.cancelled task isCancelled)

theorem foreign_iff {e : PyException} : foreign e = true ↔ Foreign e := by
  simp only [foreign, Bool.and_eq_true, Bool.not_eq_true', Option.isNone_iff_eq_none]
  exact ⟨fun ⟨⟨exception, going⟩, http⟩ => ⟨exception, going, http⟩,
    fun ⟨exception, going, http⟩ => ⟨⟨exception, going⟩, http⟩⟩

/-- **A poller goes on** with its round, whatever an `await` brings, until it is cancelled. -/
theorem round_step {rd : RayData} {pid : Nat} {alive cancelled : Bool} {program q : Proc Unit}
    {event : Event} {w w' : World} (round : Round ⟨.poller, alive, program⟩)
    (answers : taskAnswers cancelled ⟨.poller, alive, program⟩ event = true)
    (stepped : Program.step (machine rd pid) program event w = some (q, w')) :
    Round ⟨.poller, alive, q⟩ ∧ (cancelled = false → ∀ e, q ≠ .raise e) := by
  rcases round with tame | rfl
  · cases program with
    | ret a => cases stepped
    | raise e => cases stepped
    | call op next =>
        change (if cancelled && op.fallible then event.thrown == some .cancelled
          else event.thrown.all foreign) = true at answers
        by_cases stopped : (cancelled && op.fallible) = true
        · rw [if_pos stopped] at answers
          have ended := tame.stops.thrown (by simpa using answers) stepped
          refine ⟨.inr ended, fun running => ?_⟩
          rw [running] at stopped
          cases stopped
        · rw [if_neg stopped] at answers
          have raises := tame.raises.step (M := machine rd pid) (fun e thrown => by
            rw [thrown] at answers
            exact foreign_iff.1 answers) stepped
          refine ⟨.inl ⟨tame.stops.step stepped, raises⟩, fun _ e raised => ?_⟩
          subst raised
          exact raises
  · cases stepped

/-- What a step of the cluster may do beside the lifespan. -/
def Apart (B : Config.BaseSettings) (s s' : Site) : Prop :=
  Site.Inv B s' ∧ Aside s s'

theorem apart_set (inv : Site.Inv B s) {pid : Nat} {p p' : Process}
    (found : s.cluster.procs[pid]? = some p) (round : Round p')
    (polls : p'.polls = true → p.polls = true)
    (going : pid ∉ s.cancelled → p.polls = true → p'.polls = true) :
    Apart B s { s with cluster := ⟨w, s.cluster.procs.set pid p'⟩ } :=
  ⟨inv.set pid round, aside_set found polls going⟩

theorem apart_append (inv : Site.Inv B s) {p : Process} (stranger : p.role.isPoller = false) :
    Apart B s { s with cluster := ⟨w, s.cluster.procs ++ [p]⟩ } := by
  obtain ⟨role, alive, program⟩ := p
  cases role with
  | poller => cases stranger
  | handler | worker | reader => exact ⟨inv.append trivial, aside_append rfl⟩

/-- Only a poller polls. -/
theorem stranger_idle {p : Process} (stranger : p.role.isPoller = false) : p.polls = false := by
  obtain ⟨role, alive, program⟩ := p
  cases role with
  | poller => cases stranger
  | handler | worker | reader => rfl

theorem stranger_round {p : Process} (stranger : p.role.isPoller = false) : Round p := by
  obtain ⟨role, alive, program⟩ := p
  cases role with
  | poller => cases stranger
  | handler | worker | reader => trivial

/-- A process goes on that is no poller. -/
theorem apart_stranger (inv : Site.Inv B s) {pid : Nat} {p p' : Process}
    (found : s.cluster.procs[pid]? = some p) (same : p'.role = p.role)
    (stranger : p.role.isPoller = false) :
    Apart B s { s with cluster := ⟨w, s.cluster.procs.set pid p'⟩ } := by
  have stranger' : p'.role.isPoller = false := by rw [same, stranger]
  refine apart_set inv found (stranger_round stranger') (fun polls => ?_) fun _ polls => ?_
  · rw [stranger_idle stranger'] at polls
    cases polls
  · rw [stranger_idle stranger] at polls
    cases polls

theorem act_apart (inv : Site.Inv B s) {life : Option (Life Unit)} {pid : Nat} {event : Event}
    (admitted : App.admits ⟨s, life⟩ (.act pid event) = true) {cluster : State}
    (stepped : Cluster.step D (.act pid event) s.cluster = some cluster) :
    Apart B s { s with cluster } := by
  simp only [Cluster.step] at stepped
  split at stepped
  · rename_i p found
    obtain ⟨alive, performed⟩ := Option.ite_none_right_eq_some.1 stepped
    obtain ⟨⟨q, w'⟩, moved, same⟩ := Option.map_eq_some_iff.1 performed
    subst same
    have answers : (!p.role.isPoller || taskAnswers (s.cancelled.contains pid) p event) = true := by
      simp only [App.admits, found, Bool.and_eq_true] at admitted
      exact admitted.2
    cases stranger : p.role.isPoller with
    | false =>
        exact apart_stranger inv found rfl stranger
    | true =>
        rw [stranger, Bool.not_true, Bool.false_or] at answers
        obtain ⟨role, living, program⟩ := p
        cases role with
        | handler | worker | reader => cases stranger
        | poller =>
            have isAlive : living = true := alive
            subst isAlive
            obtain ⟨round, goes_on⟩ := round_step (inv.rounds pid _ found) answers moved
            refine apart_set inv found round (fun _ => ?_) fun uncancelled _ => ?_
            · cases program with
              | ret a | raise e => cases moved
              | call op next => rfl
            · have running : s.cancelled.contains pid = false := by simpa using uncancelled
              cases q with
              | ret a | call op next => rfl
              | raise e => exact absurd rfl (goes_on running e)
  · cases stepped

/-- **A step of the others** starts no poller, and ends none that is not cancelled. -/
theorem cluster_apart (inv : Site.Inv B s) {life : Option (Life Unit)} {e : Step}
    (admitted : App.admits ⟨s, life⟩ e = true) {cluster : State}
    (stepped : Cluster.step D e s.cluster = some cluster) : Apart B s { s with cluster } := by
  have same_procs (w : World) : Apart B s { s with cluster := ⟨w, s.cluster.procs⟩ } :=
    ⟨⟨inv.one_open, inv.read, inv.rounds, inv.cancelled⟩, rfl, rfl, rfl, rfl,
      fun _ p found polls => ⟨p, found, polls⟩, fun _ p _ found polls => ⟨p, found, polls⟩⟩
  cases e with
  | act pid event => exact act_apart inv admitted stepped
  | kill pid =>
      obtain ⟨p, found, same⟩ := Option.map_eq_some_iff.1 stepped
      subst same
      simp only [App.admits, found, Bool.not_eq_true'] at admitted
      exact apart_stranger inv found rfl admitted
  | post request =>
      cases stepped
      exact apart_append inv rfl
  | fetch batch_id =>
      cases stepped
      exact apart_append inv rfl
  | poll | resweep pid => cases admitted
  | start id =>
      simp only [Cluster.step] at stepped
      split at stepped
      · obtain ⟨-, started⟩ := Option.ite_none_right_eq_some.1 stepped
        obtain ⟨argv, -, same⟩ := Option.map_eq_some_iff.1 started
        subst same
        exact apart_append inv rfl
      · cases stepped
  | exit pid =>
      simp only [Cluster.step] at stepped
      split at stepped
      · rename_i p found
        split at stepped
        · rename_i id code isWorker _
          cases stepped
          exact apart_stranger inv found rfl (by rw [isWorker]; rfl)
        · cases stepped
      · cases stepped
  | report id status =>
      obtain ⟨job, -, same⟩ := Option.map_eq_some_iff.1 stepped
      subst same
      exact same_procs _
  | tick now =>
      cases stepped
      exact same_procs _

/-- **The end of a sleep**: another round, or the end of a task that is cancelled. -/
theorem wake_apart (inv : Site.Inv B s) {pid : Nat} {a : Unit}
    (found : s.cluster.procs[pid]? = some ⟨.poller, true, .ret a⟩) {cluster : State}
    (stepped : Cluster.step D (if s.cancelled.contains pid then .kill pid else .resweep pid)
      s.cluster = some cluster) : Apart B s { s with cluster } := by
  cases cancelled : s.cancelled.contains pid with
  | true =>
      simp only [cancelled, if_true, Cluster.step, found, Option.map_some, Option.some.injEq] at stepped
      subst stepped
      have round : Round ⟨.poller, true, .ret a⟩ := inv.rounds pid _ found
      refine apart_set inv found round (fun polls => ?_) fun uncancelled => ?_
      · cases polls
      · exact absurd (by simpa using cancelled) uncancelled
  | false =>
      simp only [cancelled, Bool.false_eq_true, if_false, Cluster.step, found, Option.some.injEq]
        at stepped
      subst stepped
      exact apart_set inv found (.inl (poller_round_tame D.rt)) (fun _ => rfl) fun _ _ => rfl

end Others

/-! ## Every run of the process -/

section Runs

variable (D : Deployment) (B : Config.BaseSettings)

/-- The lifespan stands at a point of its outline. -/
def Life.Kept (life : Option (Life Unit)) (s : Site) : Prop :=
  match life with
  | some p => Contract.Holds (lifeMachine D B) (siteContract B) p (fun _ => Down)
      (fun _ => Left) s
  | none => Left s

structure App.Inv (a : App) : Prop where
  site : Site.Inv B a.site
  life : Life.Kept D B a.life a.site

variable {D B} {a a' : App}

/-- No lifespan runs, so nothing runs that one has started. -/
theorem App.Inv.left (inv : App.Inv D B a) (ended : a.life.all (·.ending.isSome) = true) :
    Left a.site := by
  obtain ⟨s, life⟩ := a
  cases life with
  | none => exact inv.life
  | some p =>
      cases p with
      | ret _ => exact (Contract.Holds.returned inv.life inv.site).left
      | raise e => exact Contract.Holds.raised inv.life inv.site
      | call op next => cases ended

/-- A step beside the lifespan. -/
theorem App.Inv.apart (inv : App.Inv D B a) {s : Site} (apart : Apart B a.site s) :
    App.Inv D B ⟨s, a.life⟩ := by
  obtain ⟨site, life⟩ := a
  refine ⟨apart.1, ?_⟩
  cases life with
  | none => exact stable_left _ _ inv.site apart.1 apart.2 inv.life
  | some p => exact Contract.Holds.interfere inv.life inv.site apart.1 apart.2

/-- The process is gone: nobody polls, and nothing is bound. -/
theorem stop_idle (p : Process) : p.stop.polls = false := by
  obtain ⟨role, alive, program⟩ := p
  cases role with
  | handler | worker | reader => rfl
  | poller => cases program <;> rfl

theorem stop_round {p : Process} (round : Round p) : Round p.stop := by
  obtain ⟨role, alive, program⟩ := p
  cases role with
  | handler | worker | reader => trivial
  | poller => exact round

theorem App.Inv.restart (inv : App.Inv D B a) :
    App.Inv D B
      ⟨.boot { a.site.cluster with procs := a.site.cluster.procs.map Process.stop }, none⟩ where
  site := by
    refine ⟨?_, nofun, fun pid p found => ?_, nofun⟩
    · rintro i j ⟨engine, found, -⟩
      cases found
    · change (a.site.cluster.procs.map Process.stop)[pid]? = some p at found
      rw [List.getElem?_map] at found
      obtain ⟨q, found', same⟩ := Option.map_eq_some_iff.1 found
      subst same
      exact stop_round (inv.site.rounds pid q found')
  life := by
    refine ⟨fun pid p found => ?_, rfl, ?_⟩
    · change (a.site.cluster.procs.map Process.stop)[pid]? = some p at found
      rw [List.getElem?_map] at found
      obtain ⟨q, -, same⟩ := Option.map_eq_some_iff.1 found
      subst same
      exact stop_idle q
    · rintro i ⟨engine, found, -⟩
      cases found

/-- **Every step** keeps the invariant. -/
theorem App.Inv.step (inv : App.Inv D B a) {e : AppStep}
    (stepped : App.step D B e a = some a') : App.Inv D B a' := by
  cases e with
  | enter =>
      obtain ⟨ended, same⟩ := Option.ite_none_right_eq_some.1 stepped
      cases same
      exact ⟨inv.site, Left, stable_left, inv.left ended, lifespan_outline⟩
  | life event =>
      simp only [App.step] at stepped
      split at stepped
      · rename_i p running
        obtain ⟨⟨q, s'⟩, moved, same⟩ := Option.map_eq_some_iff.1 stepped
        cases same
        have here := inv.life
        rw [running] at here
        obtain ⟨inv', -, here'⟩ := Contract.Holds.step here inv.site (fun _ _ => trivial) moved
        exact ⟨inv', here'⟩
      · cases stepped
  | set_client_factory factory =>
      obtain ⟨ended, same⟩ := Option.ite_none_right_eq_some.1 stepped
      cases same
      have left := inv.left ended
      exact ⟨⟨inv.site.one_open, inv.site.read, inv.site.rounds, inv.site.cancelled⟩,
        left.unpolled, left.bound.sessionmaker, left.bound.only⟩
  | wake pid =>
      simp only [App.step] at stepped
      split at stepped
      · rename_i b found
        obtain ⟨cluster, woken, same⟩ := Option.map_eq_some_iff.1 stepped
        cases same
        exact inv.apart (wake_apart inv.site found woken)
      · cases stepped
  | restart =>
      cases stepped
      exact inv.restart
  | cluster e =>
      obtain ⟨admitted, performed⟩ := Option.ite_none_right_eq_some.1 stepped
      obtain ⟨cluster, moved, same⟩ := Option.map_eq_some_iff.1 performed
      cases same
      exact inv.apart (cluster_apart inv.site admitted moved)

theorem App.Inv.init : App.Inv D B .init := by
  refine ⟨⟨?_, nofun, ?_, nofun⟩, ?_, rfl, ?_⟩
  · rintro i j ⟨engine, found, -⟩
    cases found
  · intro pid p found
    cases found
  · intro pid p found
    cases found
  · rintro i ⟨engine, found, -⟩
    cases found

/-- **Every run** keeps the invariant. -/
theorem App.Run.inv {A : Assumed} (onward : App.Run D B A a a') (inv : App.Inv D B a) :
    App.Inv D B a' := by
  induction onward with
  | refl => exact inv
  | step _ _ stepped ih => exact ih.step stepped

/-! ### The process refines the cluster with one poller -/

/-- The end of the process is the end of its tasks, one after the other. -/
theorem later_stop {A : Assumed} {s : State} {w : World} (before after : List Process)
    (later : Later D A s ⟨w, before ++ after⟩) :
    Later D A s ⟨w, before ++ after.map Process.stop⟩ := by
  induction after generalizing before with
  | nil => exact later
  | cons p after ih =>
      have stopped : Later D A s ⟨w, before ++ p.stop :: after⟩ := by
        unfold Process.stop
        split
        · refine .step (e := .kill before.length) later rfl ?_
          simp [Cluster.step]
        · exact later
      have rest := ih (before ++ [p.stop]) (by simpa using stopped)
      simpa using rest

/-- Of its calls, only one touches the cluster. -/
theorem lifeExec_cluster {op : LifeOp} {c : LifeChoice} {s s' : Site} {answer : op.Res}
    (executed : lifeExec D B op c s = some (answer, s')) :
    s'.cluster = s.cluster ∨
      op = .create_task ∧ s'.cluster = s.cluster.spawn ⟨.poller, true, pollerRound D.rt⟩ := by
  cases op with
  | create_task =>
      cases executed
      exact .inr ⟨rfl, rfl⟩
  | get_settings =>
      simp only [lifeExec] at executed
      split at executed <;> cases executed <;> exact .inl rfl
  | create_async_engine url => cases c <;> cases executed <;> exact .inl rfl
  | build_client factory address => cases c <;> cases executed <;> exact .inl rfl
  | join task => exact .inl (congrArg Site.cluster (join_exec executed).1)
  | _ =>
      cases executed
      exact .inl rfl

/-- **A call of the lifespan** starts the poller as the cluster with one poller starts it. -/
theorem life_later {A : Assumed} {p q : Life Unit} {s s' : Site}
    {event : Program.Event PyException LifeChoice} (inv : App.Inv D B ⟨s, some p⟩)
    (moved : Program.step (lifeMachine D B) p event s = some (q, s')) :
    Later D { A with alone := true } s.cluster s'.cluster := by
  cases p with
  | ret a | raise e => cases moved
  | call op next =>
      have through {answer : op.Res} (executed : lifeExec D B op event.choice s = some (answer, s')) :
          Later D { A with alone := true } s.cluster s'.cluster := by
        rcases lifeExec_cluster executed with same | ⟨isTask, spawned⟩
        · rw [same]
          exact .refl
        · subst isTask
          rw [spawned]
          refine .step (e := .poll) .refl ?_ rfl
          have unpolled : Unpolled s := Contract.Holds.asks inv.life inv.site
          simp only [permitted, Bool.not_true, Bool.false_or, List.all_eq_true]
          intro p mem
          obtain ⟨pid, found⟩ := List.getElem?_of_mem mem
          rw [unpolled pid p found]
          rfl
      rcases Program.step_cases _ moved with
        ⟨a, -, executed, -⟩ | ⟨e, -, same, -⟩ | ⟨e, a, -, executed, -⟩
      · exact through executed
      · rw [same]
        exact .refl
      · exact through executed

/-- **A step** of the process is a run of the cluster with one poller. -/
theorem app_later {A : Assumed} {e : AppStep} (inv : App.Inv D B a)
    (may : App.permits D A e a = true) (stepped : App.step D B e a = some a') :
    Later D { A with alone := true } a.site.cluster a'.site.cluster := by
  cases e with
  | enter =>
      obtain ⟨-, same⟩ := Option.ite_none_right_eq_some.1 stepped
      cases same
      exact .refl
  | life event =>
      obtain ⟨s, life⟩ := a
      cases life with
      | none => cases stepped
      | some p =>
          obtain ⟨⟨q, s'⟩, moved, same⟩ := Option.map_eq_some_iff.1 stepped
          cases same
          exact life_later inv moved
  | set_client_factory factory =>
      obtain ⟨-, same⟩ := Option.ite_none_right_eq_some.1 stepped
      cases same
      exact .refl
  | wake pid =>
      simp only [App.step] at stepped
      split at stepped
      · obtain ⟨cluster, woken, same⟩ := Option.map_eq_some_iff.1 stepped
        cases same
        refine .step .refl ?_ woken
        split <;> rfl
      · cases stepped
  | restart =>
      cases stepped
      exact later_stop [] _ .refl
  | cluster e =>
      obtain ⟨admitted, performed⟩ := Option.ite_none_right_eq_some.1 stepped
      obtain ⟨cluster, moved, same⟩ := Option.map_eq_some_iff.1 performed
      cases same
      refine .step .refl ?_ moved
      cases e with
      | poll => cases admitted
      | _ => exact may

/-- **Refinement**: a run of the process is a run of the cluster with one poller. -/
theorem app_run_later {A : Assumed} (onward : App.Run D B A a a') (inv : App.Inv D B a) :
    Later D { A with alone := true } a.site.cluster a'.site.cluster := by
  induction onward with
  | refl => exact .refl
  | step before may stepped ih => exact ih.trans (app_later (before.inv inv) may stepped)

/-- **Whatever the API process does** -- lifespans that fail or are cancelled, kills, restarts
-- the cluster around it is one where no poller is started while another one is alive.  One
API process runs at a time: while a deployment is rolled over to a second one, that one polls
too. -/
theorem single_poller {A : Assumed} (reached : App.Reachable D B A a) :
    Reachable D { A with alone := true } a.site.cluster :=
  (app_run_later reached .init).reachable .init

theorem over_later {A : Assumed} {s s' : State} (alone : A.alone = true) (reachable : Reachable D A s)
    (later : Later D A s s') {row : Batch} (mem : row ∈ s.world.table)
    (terminal : row.status ∈ TERMINAL_STATUSES) : Ended row s'.world.table := by
  induction later with
  | refl => exact ⟨row, mem, rfl, Frozen.refl row⟩
  | step before may stepped ih =>
      obtain ⟨row', mem', id, frozen⟩ := ih
      have safe := reachable_inv (before.reachable reachable)
      obtain ⟨row'', mem'', id', frozen'⟩ := row_over safe alone may stepped mem'
        (frozen.status ▸ terminal)
      exact ⟨row'', mem'', id'.trans id, frozen.trans frozen'⟩

/-- **What is over stays over**, through every lifespan and every restart of the process. -/
theorem over_forever {A : Assumed} (reached : App.Reachable D B A a)
    (onward : App.Run D B A a a') {row : Batch} (mem : row ∈ a.site.cluster.world.table)
    (terminal : row.status ∈ TERMINAL_STATUSES) : Ended row a'.site.cluster.world.table :=
  over_later rfl ((app_run_later reached .init).reachable .init) (app_run_later onward (reached.inv .init))
    mem terminal

/-- What is known of the process in any state. -/
structure Safe (B : Config.BaseSettings) (a : App) : Prop where
  one_open : ∀ i j, a.site.globals.IsOpen i → a.site.globals.IsOpen j → i = j
  read : ∀ settings, a.site.settings = some settings → Config.Settings.ofEnv B = .ok settings
  up : a.serving = true → Up a.site
  down : a.life = some (.ret ()) → Down a.site
  left : ∀ e, a.life = some (.raise e) → Left a.site

/-- **A lifespan is safe**: it serves only with everything bound and one poller alive, it
returns only when everything is taken down, and where it fails it leaves no poller behind. -/
theorem lifespan_safe {A : Assumed} (reached : App.Reachable D B A a) : Safe B a := by
  have inv := reached.inv .init
  obtain ⟨s, life⟩ := a
  refine ⟨inv.site.one_open, inv.site.read, ?_, ?_, ?_⟩
  · intro serving
    cases life with
    | none => cases serving
    | some p =>
        cases p with
        | ret _ | raise e => cases serving
        | call op next =>
            cases op with
            | serve => exact Contract.Holds.asks inv.life inv.site
            | _ => cases serving
  · rintro returned
    cases returned
    exact Contract.Holds.returned inv.life inv.site
  · rintro e raised
    cases raised
    exact Contract.Holds.raised inv.life inv.site

theorem App.Run.of_play {A : Assumed} {script : List (App → Option AppStep)} {b : App}
    (before : App.Run D B A a b) (played : App.play D B A script b = some a') :
    App.Run D B A a a' := by
  induction script generalizing b with
  | nil =>
      cases played
      exact before
  | cons next script ih =>
      simp only [App.play] at played
      split at played
      · obtain ⟨may, played⟩ := Option.ite_none_right_eq_some.1 played
        obtain ⟨c, stepped, played⟩ := Option.bind_eq_some_iff.1 played
        exact ih (before.step may stepped) played
      · exact ih before played

end Runs

/-! ### Sample runs -/

/-- An environment that holds the key alone. -/
def keyOnly : Config.BaseSettings where
  declared := fun d => .ok ⟨"demo", ⟨"INFO", by decide⟩, d.RAY_ADDRESS, d.MODEL_NAME,
    ⟨1000, by decide⟩, d.POSTGRES_URL, d.RESULTS_DIR⟩
  complaint := fun errors => validationError (String.intercalate ", " (errors.map (·.field)))
  repr := fun v => "'" ++ v ++ "'"

def goes (e : AppStep) : List (App → Option AppStep) := [fun _ => some e]

/-- A number of calls of the lifespan, each of which goes well. -/
def calls (count : Nat) : List (App → Option AppStep) :=
  List.replicate count fun _ => some (.life ⟨.done, .go⟩)

/-- A task performs a number of operations. -/
def acts (pid count : Nat) : List (App → Option AppStep) :=
  List.replicate count fun a => (nextEvent sunny a.site.cluster pid).map .cluster

/-- Until it serves. -/
def startup : List (App → Option AppStep) := goes .enter ++ calls 17

/-- A lifespan that is cancelled in the first sweep of its poller, one that is killed, and one
that serves. -/
def threeLives : List (App → Option AppStep) :=
  startup ++ goes (.life ⟨.refused .cancelled, .go⟩) ++ calls 2 ++
    goes (.cluster (.act 0 ⟨.refused .cancelled, .go⟩)) ++ calls 8 ++ startup ++ goes .restart ++
    startup

abbrev SampleRun : App → App → Prop :=
  App.Run sampleDeployment keyOnly forwardOnly

def samplePlay : List (App → Option AppStep) → App → Option App :=
  App.play sampleDeployment keyOnly forwardOnly

/-- Of the three pollers, the last one polls. -/
theorem single_poller_third : ∃ a : App, SampleRun .init a ∧
    a.site.cluster.procs.map Process.polls = [false, false, true] ∧
    Reachable sampleDeployment { forwardOnly with alone := true } a.site.cluster := by
  have value : (samplePlay threeLives .init).map
      (fun a => a.site.cluster.procs.map Process.polls) = some [false, false, true] := by
    decide +kernel
  obtain ⟨a, played, polls⟩ := Option.map_eq_some_iff.1 value
  have reached := App.Run.refl.of_play played
  exact ⟨a, reached, polls, single_poller reached⟩

/-- The third lifespan serves. -/
theorem lifespan_safe_third : ∃ a : App, SampleRun .init a ∧ a.serving = true ∧
    a.site.globals.engines.map Engine.disposed = [false] ∧ Safe keyOnly a := by
  have value : (samplePlay threeLives .init).map
      (fun a => (a.serving, a.site.globals.engines.map Engine.disposed)) = some (true, [false]) := by
    decide +kernel
  obtain ⟨a, played, shown⟩ := Option.map_eq_some_iff.1 value
  obtain ⟨serving, engines⟩ := Prod.mk.inj shown
  have reached := App.Run.refl.of_play played
  exact ⟨a, reached, serving, engines, lifespan_safe reached⟩

/-- A batch from its request to its completion. -/
def oneBatch : List (App → Option AppStep) :=
  startup ++ goes (.cluster (.post hiRequest)) ++ acts 1 100 ++
    goes (.cluster (.start "raysubmit_1")) ++ acts 2 1000 ++ goes (.cluster (.exit 2)) ++
    goes (.cluster (.report "raysubmit_1" (.enum "SUCCEEDED"))) ++ acts 0 100

/-- The batch is completed, and the poller of the next process sweeps. -/
theorem over_forever_restarted : ∃ a a' : App, SampleRun .init a ∧ SampleRun a a' ∧
    a.site.cluster.world.table.map (·.status) = ["completed"] ∧
    a'.site.cluster.procs.map Process.polls = [false, false, false, true] ∧
    ∀ row ∈ a.site.cluster.world.table, row.status ∈ TERMINAL_STATUSES →
      Ended row a'.site.cluster.world.table := by
  have value : ((samplePlay oneBatch .init).bind fun a =>
      (samplePlay (goes .restart ++ startup ++ acts 3 100) a).map fun a' =>
        (a.site.cluster.world.table.map (·.status), a'.site.cluster.procs.map Process.polls)) =
      some (["completed"], [false, false, false, true]) := by
    decide +kernel
  obtain ⟨a, played, rest⟩ := Option.bind_eq_some_iff.1 value
  obtain ⟨a', onward, shown⟩ := Option.map_eq_some_iff.1 rest
  obtain ⟨status, polls⟩ := Prod.mk.inj shown
  have reached := App.Run.refl.of_play played
  have later := App.Run.refl.of_play onward
  exact ⟨a, a', reached, later, status, polls, fun row mem terminal =>
    over_forever reached later mem terminal⟩

end KubeRayBatch.Cluster
