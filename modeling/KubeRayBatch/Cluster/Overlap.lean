/-
# Cluster.Overlap -- pollers that sweep at the same time

A poller updates only rows that it has listed as active in the same sweep, each at most once
(`round_sweeps`).  While it asks Ray about them another poller can end them, and neither
`_update_status_only` nor `_apply_terminal` looks at the status that the row has by then.
`Missed` keeps, for each poller, the batches that other pollers have ended since it listed
them.

* `watched_step`: in a timely run a poller has only active rows in hand, and such that it has
  missed the end of;
* `terminal_absorbing`: so a row that is over stays as it is in every timely run, with any
  number of pollers;
* `terminal_overwritten`: without that it does not.
-/
import KubeRayBatch.Cluster.Rows
import KubeRayBatch.Cluster.Turns
import KubeRayBatch.Api.Counters

namespace KubeRayBatch.Cluster

open Theory Api Worker

set_option autoImplicit false

/-! ## One sweep -/

/-- A poller notes which of the rows it has listed it has not updated yet. -/
def sweeping : Protocol Op Op.Res (List String) where
  asks
    | .commit (.insert _), _ => False
    | .commit (.update b _), hand => b ∈ hand
    | _, _ => True
  done
    | .list_active_batches, _, rows, hand => (rows.map (·.id)).Nodup ∧ hand = attachedIds rows
    | .commit (.update b _), hand, _, hand' => hand' = hand.filter (· ≠ b)
    | _, hand, _, hand' => hand' = hand
  refused _ _ := True
  lost
    | .list_active_batches, _, hand => hand = []
    | .commit (.update b _), hand, hand' => hand' = hand.filter (· ≠ b)
    | _, hand, hand' => hand' = hand

/-- Operations that neither list rows nor write one. -/
def idleOp : Op → Bool
  | .list_active_batches | .commit (.insert _) | .commit (.update _ _) => false
  | _ => true

section Sweeping

variable {rt : Runtime} {α : Type} {hand ids : List String} {b : String}

theorem sweeping_idle {op : Op} (idle : idleOp op = true) (hand : List String) :
    sweeping.Neutral op hand := by
  cases op with
  | commit pending =>
      cases pending with
      | clean => exact ⟨trivial, fun _ _ same => same, fun _ same => same⟩
      | insert | update => cases idle
  | list_active_batches => cases idle
  | _ => exact ⟨trivial, fun _ _ same => same, fun _ same => same⟩

theorem idle_follows {p : Proc α} (idle : p.Uses fun op => idleOp op = true) :
    sweeping.Follows p hand (fun _ hand' => hand' = hand) fun _ hand' => hand' = hand :=
  .neutral (idle.mono fun _ idle => sweeping_idle idle hand) (fun _ => rfl) fun _ => rfl

/-- Rows other than this one are still in hand. -/
def Rest (ids : List String) (b : String) (hand : List String) : Prop :=
  ∀ b' ∈ ids, b' ≠ b → b' ∈ hand

theorem Rest.of_subset (more : ids ⊆ hand) (b : String) : Rest ids b hand :=
  fun _ mem _ => more mem

/-- What a session of a sweep says at its end. -/
def Said (b : String) (pending : Pending) : Prop :=
  pending = .clean ∨ ∃ changes, pending = .update b changes

theorem commit_rest {pending : Pending} (said : Said b pending) (mem : b ∈ ids)
    (more : ids ⊆ hand) : sweeping.Follows (ask (.commit pending)) hand
      (fun _ hand' => Rest ids b hand') fun (_ : PyException) hand' => Rest ids b hand' := by
  have kept := Rest.of_subset more b
  rcases said with rfl | ⟨changes, rfl⟩
  · exact .ask_neutral (sweeping_idle rfl hand) (fun _ => kept) fun _ => kept
  · have dropped : Rest ids b (hand.filter (· ≠ b)) := fun b' mem other =>
      List.mem_filter.2 ⟨more mem, by simpa using other⟩
    exact .ask (more mem) (fun _ _ same => same ▸ dropped) (fun _ _ => kept)
      fun _ same _ => same ▸ dropped

/-- A session that loads a row in hand and may update it. -/
theorem update_follows {body : Option Batch → Proc (Pending × Unit)} (mem : b ∈ ids)
    (more : ids ⊆ hand)
    (ends : ∀ row, sweeping.Follows (body row) hand
      (fun said hand' => hand' = hand ∧ Said b said.1) fun _ hand' => hand' = hand) :
    sweeping.Follows (session_scope ((ask (.get_batch b)).bind body)) hand
      (fun _ hand' => Rest ids b hand') fun _ hand' => Rest ids b hand' := by
  have kept := Rest.of_subset more b
  refine session_follows (sweeping_idle rfl hand) kept (fun hand' _ => sweeping_idle rfl hand') ?_
  refine ask_follows (sweeping_idle rfl hand) kept fun row => ?_
  refine (ends row).weaken ?_ fun _ _ same => same ▸ kept
  rintro said hand' ⟨rfl, isSaid⟩
  exact commit_rest isSaid mem more

theorem sweep_lift (x : Except PyException α) :
    sweeping.Follows (lift x) hand (fun _ hand' => hand' = hand) fun _ hand' => hand' = hand := by
  cases x <;> rfl

theorem update_status_sweeps (mem : b ∈ ids) (more : ids ⊆ hand) (new_status : String) :
    sweeping.Follows (_update_status_only b new_status) hand (fun _ hand' => Rest ids b hand')
      fun _ hand' => Rest ids b hand' := by
  refine update_follows mem more fun row => ?_
  cases row with
  | none => exact ⟨rfl, .inl rfl⟩
  | some row =>
      show sweeping.Follows (if row.status = new_status then _ else _) _ _ _
      split
      · exact ⟨rfl, .inl rfl⟩
      · exact ⟨rfl, .inr ⟨_, rfl⟩⟩

theorem apply_success_sweeps (mem : b ∈ ids) (more : ids ⊆ hand) (marker : Json.Value)
    (completed_at : Nat) :
    sweeping.Follows (_apply_success rt b marker completed_at) hand
      (fun _ hand' => Rest ids b hand') fun _ hand' => Rest ids b hand' := by
  refine update_follows mem more fun row => ?_
  cases row with
  | none => exact ⟨rfl, .inl rfl⟩
  | some row =>
      refine .bind (sweep_lift _) ?_
      rintro completed_count hand' rfl
      refine .bind (sweep_lift _) ?_
      rintro failed_count hand' rfl
      exact ask_follows (sweeping_idle rfl _) rfl fun _ => ⟨rfl, .inr ⟨_, rfl⟩⟩

theorem apply_terminal_sweeps (mem : b ∈ ids) (more : ids ⊆ hand) (new_status : String)
    (error : Json.Value) (completed_at : Nat) :
    sweeping.Follows (_apply_terminal b new_status error completed_at) hand
      (fun _ hand' => Rest ids b hand') fun _ hand' => Rest ids b hand' := by
  refine update_follows mem more fun row => ?_
  cases row with
  | none => exact ⟨rfl, .inl rfl⟩
  | some row =>
      refine ask_follows (sweeping_idle rfl _) rfl fun _ => ?_
      refine .bind (sweep_lift _) ?_
      rintro column hand' rfl
      exact ⟨rfl, .inr ⟨_, rfl⟩⟩

theorem read_marker_idle (f : FileName) :
    (read_marker f b).Uses fun op => idleOp op = true := by
  refine .bind (.ask rfl) fun present => ?_
  cases present with
  | false => trivial
  | true =>
      refine .bind (.ask rfl) fun text => ?_
      cases Json.loads text <;> trivial

/-- What reads only leaves every row in hand. -/
theorem idle_first {p : Proc α} {β : Type} {f : α → Proc β} {Q : β → List String → Prop}
    {Y : List String → Prop} (idle : p.Uses fun op => idleOp op = true) (kept : Y hand)
    (rest : ∀ a, sweeping.Follows (f a) hand Q fun _ hand' => Y hand') :
    sweeping.Follows (p.bind f) hand Q fun _ hand' => Y hand' := by
  refine .bind ((idle_follows idle).weaken (fun _ _ same => same) fun _ _ same => same ▸ kept) ?_
  rintro a hand' rfl
  exact rest a

theorem poll_terminal_sweeps (mem : b ∈ ids) (more : ids ⊆ hand) (new_status : String)
    (input_count now_utc : Nat) :
    sweeping.Follows (_poll_terminal rt b new_status input_count now_utc) hand
      (fun _ hand' => Rest ids b hand') fun _ hand' => Rest ids b hand' := by
  have kept := Rest.of_subset more b
  unfold _poll_terminal
  split
  · refine idle_first (read_marker_idle .success) kept fun marker => ?_
    cases marker <;> exact apply_success_sweeps mem more _ _
  split
  · refine idle_first (read_marker_idle .failed) kept fun marker => ?_
    show sweeping.Follows (if truthy rt marker then _ else _) _ _ _
    split
    · refine .bind ((sweep_lift _).weaken (fun _ _ same => same) fun _ _ same => same ▸ kept) ?_
      rintro error hand' rfl
      exact apply_terminal_sweeps mem more _ _ _
    · exact apply_terminal_sweeps mem more _ _ _
  · exact apply_terminal_sweeps mem more _ _ _

theorem poll_one_sweeps (mem : b ∈ ids) (more : ids ⊆ hand) (id : String) (input_count : Nat) :
    sweeping.Follows (_poll_one rt b id input_count) hand (fun _ hand' => Rest ids b hand')
      fun _ hand' => Rest ids b hand' := by
  have kept := Rest.of_subset more b
  refine idle_first ?_ kept fun new_status => ?_
  · refine .bind (.ask rfl) fun ready => ?_
    cases ready with
    | false => trivial
    | true => exact .bind (.ask rfl) fun _ => trivial
  · split
    · exact update_status_sweeps mem more _
    · exact ask_follows (sweeping_idle rfl hand) kept fun _ => poll_terminal_sweeps mem more _ _ _

/-- The rows still to be polled are in hand once the first of them is polled. -/
theorem poll_row_sweeps {row : Batch} {rest : List Batch} (fresh : row.id ∉ rest.map (·.id))
    (ahead : attachedIds (row :: rest) ⊆ hand) :
    sweeping.Follows (pollRow rt row) hand (fun _ hand' => attachedIds rest ⊆ hand')
      fun _ _ => True := by
  unfold pollRow
  cases isId : row.ray_job_id with
  | none =>
      rw [attachedIds_cons, isId] at ahead
      exact ahead
  | some id =>
      rw [attachedIds_cons, isId] at ahead
      have others : ∀ {hand'}, Rest (row.id :: attachedIds rest) row.id hand' →
          attachedIds rest ⊆ hand' := fun kept b mem =>
        kept b (List.mem_cons_of_mem _ mem) fun same => fresh (same ▸ attachedIds_subset mem)
      refine .catching ((poll_one_sweeps List.mem_cons_self ahead id _).weaken
        (fun _ _ kept => others kept) fun _ _ kept => others kept) fun exc hand' later => ?_
      split
      · exact .ask_neutral (sweeping_idle rfl hand') (fun _ => later) fun _ => trivial
      · trivial

/-- **A round of the poller** updates rows that it has listed, each at most once. -/
theorem round_sweeps (rt : Runtime) (hand : List String) :
    sweeping.Follows (pollerRound rt) hand (fun _ _ => True) fun _ _ => True := by
  refine .catching (Y := fun _ _ => True) (.bind (R := fun rows hand' =>
    (rows.map (·.id)).Nodup ∧ hand' = attachedIds rows) ?_ ?_) fun exc hand' _ => ?_
  · refine session_follows (Y := fun _ => True) (sweeping_idle rfl hand) trivial
      (fun hand' _ => sweeping_idle rfl hand') ?_
    refine .bind (R := fun rows hand' => (rows.map (·.id)).Nodup ∧ hand' = attachedIds rows) ?_ ?_
    · exact .ask trivial (fun _ _ answered => answered) (fun _ _ => trivial) fun _ _ _ => trivial
    · rintro rows hand' listed
      exact .ask_neutral (sweeping_idle rfl hand') (fun _ => listed) fun _ => trivial
  · rintro rows hand' ⟨distinct, rfl⟩
    show sweeping.Follows (if rows.isEmpty = true then _ else _) _ _ _
    split
    · trivial
    · refine ask_follows (Y := fun _ => True) (sweeping_idle rfl _) trivial fun _ => ?_
      refine (Protocol.Follows.forEach (I := fun rest hand' => (rest.map (·.id)).Nodup ∧
        attachedIds rest ⊆ hand') (X := fun _ _ => True) ?_ rows _
        ⟨distinct, List.Subset.refl _⟩).weaken (fun _ _ _ => trivial) fun _ _ _ => trivial
      rintro row rest hand' ⟨distinct, ahead⟩
      obtain ⟨fresh, distinct⟩ := List.nodup_cons.1 distinct
      exact (poll_row_sweeps fresh ahead).weaken (fun _ _ later => ⟨distinct, later⟩)
        fun _ _ _ => trivial
  · split
    · trivial
    split
    · exact .ask_neutral (sweeping_idle rfl hand') (fun _ => trivial) fun _ => trivial
    · trivial

end Sweeping

/-! ## What the pollers miss -/

/-- The batches that are not active any more. -/
def endedBetween (before after : Table) : List String :=
  (before.active.filter fun row => !(after.get row.id).any fun row' => isActive row'.status).map (·.id)

def Op.lists : Op → Bool
  | .list_active_batches => true
  | _ => false

/-- For each poller, the batches that other pollers have ended since it listed the active rows. -/
abbrev Missed := Nat → List String

/-- What the pollers have missed after a step. -/
def Missed.after (missed : Missed) (s s' : State) : Step → Missed
  | .act pid event =>
      match s.procs[pid]? with
      | some p =>
          if (p.role.actor pid).isPoller then fun q =>
            if q = pid then if (p.performs event).any Op.lists then [] else missed q
            else endedBetween s.world.table s'.world.table ++ missed q
          else missed
      | none => missed
  | _ => missed

/-- A poller commits an update only of a batch that no other poller has ended since it
listed it. -/
def timely (missed : Missed) (s : State) : Step → Bool
  | .act pid event =>
      match s.procs[pid]? with
      | some p =>
          match p.performs event with
          | some (.commit (.update b _)) =>
              !(p.role.actor pid).isPoller || !(missed pid).contains b
          | _ => true
      | none => true
  | _ => true

/-- A state, and what its pollers have missed. -/
structure Watch where
  state : State
  missed : Missed

def Watch.init : Watch := ⟨.init, fun _ => []⟩

/-- **The runs** in which every step is timely. -/
inductive Timely (D : Deployment) (A : Assumed) (u : Watch) : Watch → Prop where
  | refl : Timely D A u u
  | step {v : Watch} {e : Step} {s' : State} (before : Timely D A u v)
      (may : permitted D A e v.state = true) (isTimely : timely v.missed v.state e = true)
      (stepped : Cluster.step D e v.state = some s') :
      Timely D A u ⟨s', v.missed.after v.state s' e⟩

/-- An active row that has a job. -/
def Pollable (w : World) (b : String) : Prop :=
  ∃ row id, w.table.get b = some row ∧ isActive row.status = true ∧ row.ray_job_id = some id

/-- The rows that a poller has in hand are active, unless it has missed their end. -/
def InHand (missed hand : List String) (w : World) : Prop :=
  ∀ b ∈ hand, b ∈ missed ∨ Pollable w b

/-- A process that sweeps, in the middle of its round. -/
def Sweeps (missed : List String) (p : Process) (w : World) : Prop :=
  ∃ hand, sweeping.Follows p.program hand (fun _ _ => True) (fun _ _ => True) ∧
    InHand missed hand w

section Watching

variable {D : Deployment} {A : Assumed} {s s' : State} {w w' : World} {b : String}

/-- A row that stays in the table stays pollable, or it has ended. -/
theorem Pollable.after (pollable : Pollable w b)
    (kept : ∀ row, w.table.get b = some row → ∃ row', w'.table.get b = some row' ∧ Kept row row') :
    b ∈ endedBetween w.table w'.table ∨ Pollable w' b := by
  obtain ⟨row, id, found, active, isId⟩ := pollable
  obtain ⟨row', found', kept⟩ := kept row found
  by_cases active' : isActive row'.status = true
  · exact .inr ⟨row', id, found', active', kept.ray_job_id id isId⟩
  · refine .inl (List.mem_map.2 ⟨row, List.mem_filter.2 ⟨?_, ?_⟩, Table.get_id found⟩)
    · exact Table.mem_active.2 ⟨Table.get_mem found, active⟩
    · rw [Table.get_id found, found', Option.any_some, Bool.eq_false_iff.2 active']
      rfl

theorem Pollable.same (pollable : Pollable w b) (same : w'.table.get b = w.table.get b) :
    Pollable w' b := by
  unfold Pollable
  rw [same]
  exact pollable

/-- Nobody but a poller changes a row that has a job. -/
theorem Change.attached {now : Nat} {actor : Actor} {v v' : View}
    (changed : Change D A b now actor v v') (stranger : actor.isPoller = false) {row : Batch}
    {id : String} (found : v.row = some row) (isId : row.ray_job_id = some id) :
    v'.row = some row := by
  cases changed with
  | issue | input | submit | start | work | exit | report => exact found
  | insert pid u request path owned unborn => cases unborn.symm.trans found
  | attach pid row' job updated owned found' unattached =>
      cases found.symm.trans found'
      cases unattached.symm.trans isId
  | mark pid row' error ended updated owned found' unattached =>
      cases found.symm.trans found'
      cases unattached.symm.trans isId
  | poll => cases stranger

/-- **The rows that are listed** are active, and listed once. -/
theorem listed_hand {order : List Batch} (keyed : w.table.Keyed) (listed : order.Perm w.table.active) :
    (order.map (·.id)).Nodup ∧ InHand [] (attachedIds order) w := by
  constructor
  · have distinct : (w.table.map (·.id)).Nodup := keyed
    exact ((listed.map (·.id)).nodup_iff).2 (distinct.sublist (List.filter_sublist.map _))
  · intro b mem
    obtain ⟨row, attached, rfl⟩ := List.mem_map.1 mem
    obtain ⟨isListed, hasJob⟩ := List.mem_filter.1 attached
    obtain ⟨inTable, active⟩ := Table.mem_active.1 (listed.subset isListed)
    obtain ⟨id, isId⟩ := Option.isSome_iff_exists.1 hasJob
    exact .inr ⟨row, id, keyed.get_of_mem inTable, active, isId⟩

/-- Where another row is updated, this one stays in hand. -/
theorem InHand.updated {missed hand : List String} (inHand : InHand missed hand w) {b : String}
    (elsewhere : ∀ b' ≠ b, w'.table.get b' = w.table.get b') :
    InHand missed (hand.filter (· ≠ b)) w' := by
  intro b' mem
  obtain ⟨mem, other⟩ := List.mem_filter.1 mem
  exact (inHand b' mem).imp_right fun pollable => pollable.same (elsewhere b' (by simpa using other))

/-- What an operation of a sweep does to the table: nothing, or it updates one row in hand. -/
theorem hand_performed {rd : RayData} {pid : Nat} {op : Op} {c : Choice} {a : op.Res}
    {missed hand : List String} (inHand : InHand missed hand w) (keyed : w.table.Keyed)
    (asks : sweeping.asks op hand)
    (isTimely : ∀ b changes, op = .commit (.update b changes) → b ∉ missed)
    (executed : exec rd pid op c w = some (a, w')) :
    (∃ hand', sweeping.done op hand a hand' ∧ InHand (if op.lists then [] else missed) hand' w') ∧
      (∃ hand', sweeping.lost op hand hand' ∧ InHand (if op.lists then [] else missed) hand' w') ∧
      ∀ b row, w.table.get b = some row → isActive row.status = false →
        w'.table.get b = some row := by
  have still (table : w'.table = w.table) : InHand missed hand w' ∧
      ∀ b row, w.table.get b = some row → isActive row.status = false →
        w'.table.get b = some row :=
    ⟨fun b mem => (inHand b mem).imp_right fun pollable => pollable.same (by rw [table]),
      fun b row found _ => by rw [table]; exact found⟩
  cases op with
  | commit pending =>
      cases pending with
      | insert new => exact asks.elim
      | clean =>
          obtain ⟨table, committed, rfl⟩ := commit_exec rd pid .clean executed
          cases committed
          exact ⟨⟨hand, rfl, (still rfl).1⟩, ⟨hand, rfl, (still rfl).1⟩, (still rfl).2⟩
      | update b changes =>
          obtain ⟨row, id, found, active, isId⟩ :=
            (inHand b asks).resolve_left (isTimely b changes rfl)
          obtain ⟨table, committed, rfl⟩ := commit_exec rd pid (.update b changes) executed
          have elsewhere : ∀ b' ≠ b, table.get b' = w.table.get b' := fun b' other => by
            rw [Table.get_commit committed b', Table.after, if_neg other]
          have rest : InHand missed (hand.filter (· ≠ b)) { w with table := table } :=
            inHand.updated elsewhere
          refine ⟨⟨_, rfl, rest⟩, ⟨_, rfl, rest⟩, fun b' row' found' inactive => ?_⟩
          have other : b' ≠ b := by
            rintro rfl
            cases found.symm.trans found'
            cases active.symm.trans inactive
          exact (elsewhere b' other).trans found'
  | list_active_batches =>
      have same := (quiet_exec rfl executed).table
      cases c with
      | order order =>
          obtain ⟨perm, answered⟩ := Option.ite_none_right_eq_some.1 executed
          obtain ⟨rfl, rfl⟩ := Prod.mk.inj (Option.some.inj answered)
          obtain ⟨distinct, active⟩ := listed_hand keyed (List.isPerm_iff.1 perm)
          exact ⟨⟨attachedIds order, ⟨distinct, rfl⟩, active⟩,
            ⟨[], rfl, fun _ mem => absurd mem List.not_mem_nil⟩, (still same).2⟩
      | _ => cases executed
  | _ =>
      have same := exec_table rd pid (by intro pending isCommit; cases isCommit) executed
      exact ⟨⟨hand, rfl, (still same).1⟩, ⟨hand, rfl, (still same).1⟩, (still same).2⟩

/-- What a poller has in hand after its step. -/
theorem sweep_step {p : Process} {pid : Nat} {event : Event} {next : Proc p.role.Result}
    {missed : List String} (sweeps : Sweeps missed p w) (keyed : w.table.Keyed)
    (isTimely : ∀ b changes, p.performs event = some (.commit (.update b changes)) → b ∉ missed)
    (performed : Program.step (machine D.rd pid) p.program event w = some (next, w')) :
    Sweeps (if (p.performs event).any Op.lists then [] else missed) { p with program := next } w' ∧
      ∀ b row, w.table.get b = some row → isActive row.status = false →
        w'.table.get b = some row := by
  obtain ⟨role, alive, program⟩ := p
  obtain ⟨hand, follows, inHand⟩ := sweeps
  cases program with
  | ret a | raise e => cases performed
  | call op rest =>
      obtain ⟨asks, done, refused, lost⟩ := follows
      rcases Program.step_cases (machine D.rd pid) performed with
        ⟨a, fate, executed, rfl⟩ | ⟨e, fate, rfl, rfl⟩ | ⟨e, a, fate, executed, rfl⟩
      · have performs : Process.performs ⟨role, alive, .call op rest⟩ event = some op := by
          simp only [Process.performs, fate]
        rw [performs] at isTimely ⊢
        obtain ⟨⟨hand', noted, inHand'⟩, -, rows⟩ := hand_performed inHand keyed asks
          (fun b changes same => isTimely b changes (congrArg some same)) executed
        exact ⟨⟨hand', done a hand' noted, inHand'⟩, rows⟩
      · have performs : Process.performs ⟨role, alive, .call op rest⟩ event = none := by
          simp only [Process.performs, fate]
        rw [performs]
        exact ⟨⟨hand, refused trivial e, inHand⟩, fun _ _ found _ => found⟩
      · have performs : Process.performs ⟨role, alive, .call op rest⟩ event = some op := by
          simp only [Process.performs, fate]
        rw [performs] at isTimely ⊢
        obtain ⟨-, ⟨hand', noted, inHand'⟩, rows⟩ := hand_performed inHand keyed asks
          (fun b changes same => isTimely b changes (congrArg some same)) executed
        exact ⟨⟨hand', lost hand' noted e, inHand'⟩, rows⟩

/-- **The invariant** of a timely run. -/
structure Watched (D : Deployment) (A : Assumed) (u : Watch) : Prop where
  safe : SysInv D A u.state
  sweeps : ∀ (pid : Nat) (p : Process), u.state.procs[pid]? = some p → p.alive = true →
    (p.role.actor pid).isPoller = true → Sweeps (u.missed pid) p u.state.world

section Steps

variable {u : Watch} (watched : Watched D A u)

theorem InHand.mono {missed missed' hand : List String} (inHand : InHand missed hand w)
    (more : missed ⊆ missed') (kept : ∀ b, Pollable w b → b ∈ missed' ∨ Pollable w' b) :
    InHand missed' hand w' := fun b mem =>
  (inHand b mem).elim (fun miss => .inl (more miss)) (kept b)

include watched in
/-- A process other than a poller takes a step. -/
theorem watched_stranger {pid : Nat} {p : Process} {next : Proc p.role.Result}
    (stranger : (p.role.actor pid).isPoller = false)
    (moved : Move D A (p.role.actor pid) u.state.world s'.world) (safe' : SysInv D A s')
    (procs : s'.procs = u.state.procs.set pid { p with program := next }) :
    Watched D A ⟨s', u.missed⟩ ∧ ∀ row ∈ u.state.world.table, row.status ∈ TERMINAL_STATUSES →
      Ended row s'.world.table := by
  refine ⟨⟨safe', ?_⟩, ?_⟩
  · intro q r found alive poller
    rw [procs] at found
    rcases getElem?_set_one found with ⟨rfl, rfl⟩ | ⟨-, old⟩
    · cases stranger.symm.trans poller
    · obtain ⟨hand, follows, inHand⟩ := watched.sweeps q r old alive poller
      refine ⟨hand, follows, inHand.mono (List.Subset.refl _) fun b pollable => .inr ?_⟩
      rcases moved.at b with same | changed
      · exact pollable.same (congrArg View.row same)
      · obtain ⟨row, id, found, active, isId⟩ := pollable
        exact ⟨row, id, changed.attached stranger found isId, active, isId⟩
  · intro row mem terminal
    have found := watched.safe.world.view_of_mem mem
    rcases moved.at row.id with same | changed
    · rw [← same] at found
      exact ⟨row, (mem_of_view found).1, rfl, Frozen.refl row⟩
    · obtain ⟨row', found', frozen⟩ :=
        changed.ended (.inr stranger) found (not_active_of_terminal terminal)
      obtain ⟨mem', id⟩ := mem_of_view found'
      exact ⟨row', mem', id, frozen⟩

include watched in
/-- A poller takes a timely step. -/
theorem watched_poller {pid : Nat} {event : Event} {p : Process} {next : Proc p.role.Result}
    (poller : (p.role.actor pid).isPoller = true) (found : u.state.procs[pid]? = some p)
    (alive : p.alive = true) (isTimely : timely u.missed u.state (.act pid event) = true)
    (performed : Program.step (machine D.rd pid) p.program event u.state.world =
      some (next, s'.world))
    (moved : Move D A (p.role.actor pid) u.state.world s'.world) (safe' : SysInv D A s')
    (procs : s'.procs = u.state.procs.set pid { p with program := next }) :
    Watched D A ⟨s', u.missed.after u.state s' (.act pid event)⟩ ∧
      ∀ row ∈ u.state.world.table, row.status ∈ TERMINAL_STATUSES →
        Ended row s'.world.table := by
  have fresh : ∀ b changes, p.performs event = some (.commit (.update b changes)) →
      b ∉ u.missed pid := by
    intro b changes performs mem
    simp only [timely, found, performs, poller, Bool.not_true, Bool.false_or] at isTimely
    rw [List.contains_iff_mem.2 mem] at isTimely
    cases isTimely
  obtain ⟨sweeps, rows⟩ := sweep_step (watched.sweeps pid p found alive poller)
    watched.safe.world.keyed fresh performed
  refine ⟨⟨safe', ?_⟩, ?_⟩
  · intro q r found' alive' poller'
    rw [procs] at found'
    simp only [Missed.after, found, poller, if_true]
    rcases getElem?_set_one found' with ⟨rfl, rfl⟩ | ⟨other, old⟩
    · rw [if_pos rfl]
      exact sweeps
    · rw [if_neg other]
      obtain ⟨hand, follows, inHand⟩ := watched.sweeps q r old alive' poller'
      refine ⟨hand, follows, inHand.mono (List.subset_append_right _ _) fun b pollable => ?_⟩
      refine (pollable.after fun row found => ?_).imp_left (List.mem_append_left _)
      rcases moved.at b with same | changed
      · exact ⟨row, (congrArg View.row same).trans found, Kept.refl row⟩
      · exact changed.kept found
  · intro row mem terminal
    have stays := rows row.id row (watched.safe.world.view_of_mem mem)
      (not_active_of_terminal terminal)
    exact ⟨row, Table.get_mem stays, rfl, Frozen.refl row⟩

include watched in
/-- A step beside the programs. -/
theorem watched_aside {e : Step} (aside : ∀ pid event, e ≠ .act pid event) (safe' : SysInv D A s')
    (stepped : step D e u.state = some s') :
    Watched D A ⟨s', u.missed.after u.state s' e⟩ ∧
      ∀ row ∈ u.state.world.table, row.status ∈ TERMINAL_STATUSES →
        Ended row s'.world.table := by
  have missed : u.missed.after u.state s' e = u.missed := by
    cases e with
    | act pid event => exact absurd rfl (aside pid event)
    | _ => rfl
  rw [missed]
  have begins (pid : Nat) (alive : Bool) (w : World) :
      Sweeps (u.missed pid) ⟨.poller, alive, pollerRound D.rt⟩ w :=
    ⟨[], round_sweeps D.rt [], fun _ mem => absurd mem List.not_mem_nil⟩
  have old (still : Still u.state.world s'.world) {q : Nat} {r : Process}
      (sweeps : Sweeps (u.missed q) r u.state.world) : Sweeps (u.missed q) r s'.world := by
    obtain ⟨hand, follows, inHand⟩ := sweeps
    exact ⟨hand, follows, inHand.mono (List.Subset.refl _) fun b pollable =>
      .inr (pollable.same (by rw [still.table]))⟩
  have ended (still : Still u.state.world s'.world) : ∀ row ∈ u.state.world.table,
      row.status ∈ TERMINAL_STATUSES → Ended row s'.world.table := fun row mem _ =>
    ⟨row, still.table ▸ mem, rfl, Frozen.refl row⟩
  cases stepped_of_step stepped with
  | act => exact absurd rfl (aside _ _)
  | @spawn _ new isStart _ still procs =>
      refine ⟨⟨safe', fun q r found alive poller => ?_⟩, ended still⟩
      rw [procs] at found
      rcases getElem?_append_one found with isOld | ⟨rfl, rfl⟩
      · exact old still (watched.sweeps q r isOld alive poller)
      · cases isStart with
        | poller => exact begins _ true _
        | handler | reader | worker => cases poller
  | @age _ pid p p' found aged _ still procs =>
      refine ⟨⟨safe', fun q r found' alive poller => ?_⟩, ended still⟩
      rw [procs] at found'
      rcases getElem?_set_one found' with ⟨rfl, rfl⟩ | ⟨-, isOld⟩
      · cases aged with
        | same => exact old still (watched.sweeps q _ found alive poller)
        | dead => cases alive
        | resweeps => exact begins q true _
      · exact old still (watched.sweeps q r isOld alive poller)
  | rest _ still procs =>
      refine ⟨⟨safe', fun q r found alive poller => ?_⟩, ended still⟩
      rw [procs] at found
      exact old still (watched.sweeps q r found alive poller)

include watched in
/-- **Step lemma**: a timely step keeps the invariant, and leaves the rows that are over. -/
theorem watched_step {e : Step} (may : permitted D A e u.state = true)
    (isTimely : timely u.missed u.state e = true) (stepped : step D e u.state = some s') :
    Watched D A ⟨s', u.missed.after u.state s' e⟩ ∧
      ∀ row ∈ u.state.world.table, row.status ∈ TERMINAL_STATUSES →
        Ended row s'.world.table := by
  have safe' := (watched.safe.step may stepped).1
  cases e with
  | act pid event =>
      obtain ⟨p, next, found, alive, performed, procs⟩ := step_act stepped
      have moved := act_moves watched.safe may found alive performed
      by_cases poller : (p.role.actor pid).isPoller = true
      · exact watched_poller watched poller found alive isTimely performed moved safe' procs
      · have missed : u.missed.after u.state s' (.act pid event) = u.missed := by
          simp only [Missed.after, found, if_neg poller]
        rw [missed]
        exact watched_stranger watched (Bool.eq_false_iff.2 poller) moved safe' procs
  | _ => exact watched_aside watched (fun _ _ => nofun) safe' stepped

end Steps

/-- **Run lemma.** -/
theorem Timely.watched {u : Watch} (run : Timely D A .init u) : Watched D A u := by
  induction run with
  | refl => exact ⟨.init, fun _ _ found => absurd found (by simp [Watch.init, State.init])⟩
  | step before may isTimely stepped ih => exact (watched_step ih may isTimely stepped).1

/-- **key theorem.** A row that is over stays as it is in every timely run, with any number
of pollers. -/
theorem terminal_absorbing {u u' : Watch} (run : Timely D A .init u) (later : Timely D A u u')
    {row : Batch} (mem : row ∈ u.state.world.table) (terminal : row.status ∈ TERMINAL_STATUSES) :
    Ended row u'.state.world.table := by
  have kept : Watched D A u' ∧ Ended row u'.state.world.table := by
    induction later with
    | refl => exact ⟨run.watched, row, mem, rfl, Frozen.refl row⟩
    | step before may isTimely stepped ih =>
        obtain ⟨watched, row', mem', id, frozen⟩ := ih
        obtain ⟨watched', ended⟩ := watched_step watched may isTimely stepped
        obtain ⟨row'', mem'', id', frozen'⟩ := ended row' mem' (frozen.status ▸ terminal)
        exact ⟨watched', row'', mem'', id'.trans id, frozen.trans frozen'⟩
  exact kept.2

end Watching

/-! ## Runs to evaluate -/

section Play

variable (D : Deployment) (A : Assumed) (policy : Op → World → Event)

/-- One step, if it is permitted and timely. -/
def Watch.next (u : Watch) (e : Step) : Option Watch :=
  if permitted D A e u.state && timely u.missed u.state e then
    (step D e u.state).map fun s' => ⟨s', u.missed.after u.state s' e⟩
  else none

/-- Perform up to `count` operations of a process. -/
def Watch.drive (pid : Nat) : Nat → Watch → Option Watch
  | 0, u => some u
  | count + 1, u =>
      match nextEvent policy u.state pid with
      | some e => (u.next D A e).bind (Watch.drive pid count)
      | none => some u

def Watch.play : List Scene → Watch → Option Watch
  | [], u => some u
  | .one e :: scenes, u => (u.next D A e).bind (Watch.play scenes)
  | .runs pid count :: scenes, u =>
      (Watch.drive D A policy pid count u).bind (Watch.play scenes)

end Play

section Played

variable {D : Deployment} {A : Assumed} {policy : Op → World → Event} {u v v' : Watch}

theorem Timely.next (run : Timely D A u v) {e : Step} (next : v.next D A e = some v') :
    Timely D A u v' := by
  obtain ⟨may, moved⟩ := Option.ite_none_right_eq_some.1 next
  obtain ⟨s', stepped, rfl⟩ := Option.map_eq_some_iff.1 moved
  rw [Bool.and_eq_true] at may
  exact run.step may.1 may.2 stepped

theorem Timely.drive {pid count : Nat} (run : Timely D A u v)
    (driven : v.drive D A policy pid count = some v') : Timely D A u v' := by
  induction count generalizing v with
  | zero =>
      cases driven
      exact run
  | succ count ih =>
      simp only [Watch.drive] at driven
      split at driven
      · obtain ⟨t, next, driven⟩ := Option.bind_eq_some_iff.1 driven
        exact ih (run.next next) driven
      · cases driven
        exact run

theorem Timely.play {scenes : List Scene} (run : Timely D A u v)
    (played : v.play D A policy scenes = some v') : Timely D A u v' := by
  induction scenes generalizing v with
  | nil =>
      cases played
      exact run
  | cons scene scenes ih =>
      cases scene with
      | one e =>
          obtain ⟨t, next, played⟩ := Option.bind_eq_some_iff.1 played
          exact ih (run.next next) played
      | runs pid count =>
          obtain ⟨t, driven, played⟩ := Option.bind_eq_some_iff.1 played
          exact ih (run.drive driven) played

end Played

/-- The first poller has listed the row when the second one completes it. -/
def overtaken : List Scene :=
  opening ++ [.one .poll, .runs 2 5, .runs 1 1000, .one (.exit 1),
    .one (.report "raysubmit_1" (.enum "SUCCEEDED")), .one .poll, .runs 3 100]

/-- Ray does not answer the first poller, which then sweeps again. -/
def unanswered : List Scene :=
  [.one (.act 2 ⟨.refused (.runtimeError "Ray is away"), .go⟩), .runs 2 100, .one (.resweep 2),
    .runs 2 100]

theorem terminal_absorbing_overtaken : ∃ u u' : Watch,
    Timely sampleDeployment forwardOnly .init u ∧ u.missed 2 = [newBatchId sampleUlid] ∧
    Timely sampleDeployment forwardOnly u u' ∧
    u.state.world.table.map (·.status) = ["completed"] ∧
    ∀ row ∈ u.state.world.table, row.status ∈ TERMINAL_STATUSES → Ended row u'.state.world.table := by
  have value : ((Watch.init.play sampleDeployment forwardOnly sunny overtaken).bind fun u =>
      (u.play sampleDeployment forwardOnly sunny unanswered).map fun u' =>
        (u.missed 2, u.state.world.table.map (·.status))) =
      some ([newBatchId sampleUlid], ["completed"]) := by
    decide +kernel
  obtain ⟨u, played, rest⟩ := Option.bind_eq_some_iff.1 value
  obtain ⟨u', played', shown⟩ := Option.map_eq_some_iff.1 rest
  obtain ⟨missed, status⟩ := Prod.mk.inj shown
  have run := Timely.refl.play played
  have later := Timely.refl.play played'
  exact ⟨u, u', run, missed, later, status, fun row mem terminal =>
    terminal_absorbing run later mem terminal⟩

/-- The first poller has read RUNNING and loaded nothing yet when the second one completes
the row; then it loads the row and assigns the stale status. -/
def overlap : List Scene :=
  opening ++ [.one (.report "raysubmit_1" (.enum "RUNNING")), .one .poll, .runs 2 6, .runs 1 1000,
    .one (.exit 1), .one (.report "raysubmit_1" (.enum "SUCCEEDED")), .one .poll, .runs 3 100,
    .runs 2 2]

/-- A completed row goes back to `in_progress`. -/
theorem terminal_overwritten :
    ¬ ∀ (D : Deployment) (s s' : State) (e : Step) (row : Batch), Reachable D forwardOnly s →
      permitted D forwardOnly e s = true → step D e s = some s' → row ∈ s.world.table →
      row.status ∈ TERMINAL_STATUSES → Ended row s'.world.table := by
  intro absorbing
  have value : ((play sampleDeployment forwardOnly sunny overlap .init).bind fun s =>
      (step sampleDeployment (.act 2 ⟨.done, .go⟩) s).map fun s' =>
        (permitted sampleDeployment forwardOnly (.act 2 ⟨.done, .go⟩) s,
          s.world.table.map (·.status), s'.world.table.map (·.status))) =
      some (true, ["completed"], ["in_progress"]) := by decide +kernel
  obtain ⟨s, played, rest⟩ := Option.bind_eq_some_iff.1 value
  obtain ⟨s', stepped, shown⟩ := Option.map_eq_some_iff.1 rest
  obtain ⟨may, shown⟩ := Prod.mk.inj shown
  obtain ⟨before, after⟩ := Prod.mk.inj shown
  obtain ⟨row, isRow, completed⟩ := List.map_eq_singleton_iff.1 before
  obtain ⟨row', isRow', running⟩ := List.map_eq_singleton_iff.1 after
  have mem : row ∈ s.world.table := by rw [isRow]; exact List.mem_singleton_self row
  obtain ⟨row'', mem'', -, frozen⟩ := absorbing sampleDeployment s s' _ row
    (reachable_play .init played) may stepped mem (by rw [completed]; decide)
  rw [isRow', List.mem_singleton] at mem''
  have status := frozen.status
  rw [mem'', running, completed] at status
  exact absurd status (by decide)

end KubeRayBatch.Cluster
