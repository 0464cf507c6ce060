/-
# Cluster.Rows -- the rows of the table over a whole run

* `row_invariant`: with one poller at a time and a Ray whose statuses move forward, the
  columns of every row agree with its status, and along every step the status only moves
  forward and what is written once stays;
* `row_over`: with one poller at a time a row that is over stays as it is.
-/
import KubeRayBatch.Cluster.Presence

namespace KubeRayBatch.Cluster

open Theory Api Worker

set_option autoImplicit false

variable {D : Deployment} {A : Assumed} {s s' : State}

/-! ## One step -/

/-- What a step does to one batch. -/
theorem view_step (safe : SysInv D A s) {e : Step} (may : permitted D A e s = true)
    (stepped : step D e s = some s') (b : String) :
    view s'.world b = view s.world b ∨
      ∃ a, Change D A b s.world.clock a (view s.world b) (view s'.world b) := by
  obtain ⟨-, a, moved⟩ := safe.step may stepped
  rcases moved.at b with same | changed
  · exact .inl same
  · exact .inr ⟨a, changed⟩

/-- A row of the table, seen as the row of its batch after a step. -/
theorem mem_of_view {w : World} {b : String} {row : Batch} (found : (view w b).row = some row) :
    row ∈ w.table ∧ row.id = b :=
  ⟨Table.get_mem found, Table.get_id found⟩

/-! ## The row invariant -/

/-- The columns of a row of the table, by its status. -/
structure RowLaw (A : Assumed) (table : Table) (row : Batch) : Prop where
  literal : ∃ status : BatchStatus, row.status = status.literal
  listed : row ∈ table.active ↔ row.status ∉ TERMINAL_STATUSES
  shape : Shape row
  dated : A.clock = true → ∀ t, row.completed_at = some t → row.created_at ≤ t

/-- What a step leaves of a row. -/
def Advanced (row : Batch) (table : Table) : Prop :=
  ∃ row' ∈ table, row'.id = row.id ∧ Kept row row' ∧ Behind row.status row'.status

theorem row_law (safe : SysInv D A s) (alone : A.alone = true) (forward : A.forward = true)
    {row : Batch} (mem : row ∈ s.world.table) : RowLaw A s.world.table row := by
  have sound := (safe.world.sound row.id).row row (safe.world.view_of_mem mem)
  obtain ⟨status, literal⟩ := sound.literal
  exact ⟨⟨status, literal⟩, listed_iff mem literal, sound.shape alone forward, sound.dated⟩

theorem row_advances (safe : SysInv D A s) (alone : A.alone = true) (forward : A.forward = true)
    {e : Step} (may : permitted D A e s = true) (stepped : step D e s = some s') {row : Batch}
    (mem : row ∈ s.world.table) : Advanced row s'.world.table := by
  have found := safe.world.view_of_mem mem
  rcases view_step safe may stepped row.id with same | ⟨a, changed⟩
  · rw [← same] at found
    exact ⟨row, (mem_of_view found).1, rfl, Kept.refl row, Behind.refl row.status⟩
  · obtain ⟨row', found', kept⟩ := changed.kept found
    obtain ⟨mem', id⟩ := mem_of_view found'
    exact ⟨row', mem', id, kept, changed.behind alone forward found found'⟩

/-- A row stays in the table, with what was written once. -/
theorem row_kept (safe : SysInv D A s) {e : Step} (may : permitted D A e s = true)
    (stepped : step D e s = some s') {b : String} {row : Batch} (found : s.world.table.get b = some row) :
    ∃ row', s'.world.table.get b = some row' ∧ Kept row row' := by
  rcases view_step safe may stepped b with same | ⟨a, changed⟩
  · exact ⟨row, (congrArg View.row same).trans found, Kept.refl row⟩
  · exact changed.kept found

/-- **key theorem.** The row invariant, in every reachable state and along every step. -/
theorem row_invariant (alone : A.alone = true) (forward : A.forward = true)
    (reachable : Reachable D A s) :
    (∀ row ∈ s.world.table, RowLaw A s.world.table row) ∧
      ∀ e s', permitted D A e s = true → step D e s = some s' →
        ∀ row ∈ s.world.table, Advanced row s'.world.table := by
  have safe := reachable_inv reachable
  exact ⟨fun row mem => row_law safe alone forward mem,
    fun e s' may stepped row mem => row_advances safe alone forward may stepped mem⟩

/-- Until the poller has completed the row. -/
def completionOf (request : CreateBatchRequest) : List Scene :=
  openingOf request ++ [.runs 1 1000, .one (.exit 1),
    .one (.report "raysubmit_1" (.enum "SUCCEEDED")), .one .poll, .runs 2 100]

def completion : List Scene := completionOf hiRequest

theorem row_invariant_completed : ∃ s, Reachable sampleDeployment .all s ∧
    s.world.table.map (·.status) = ["completed"] ∧
    ∀ row ∈ s.world.table, RowLaw .all s.world.table row := by
  have value : ((play sampleDeployment .all sunny completion .init).map
      fun s => s.world.table.map (·.status)) = some ["completed"] := by decide +kernel
  obtain ⟨s, played, status⟩ := Option.map_eq_some_iff.1 value
  have reachable := reachable_play .init played
  exact ⟨s, reachable, status, (row_invariant rfl rfl reachable).1⟩

/-! ## Rows that are over -/

/-- A state that a run goes on to. -/
inductive Later (D : Deployment) (A : Assumed) (s : State) : State → Prop where
  | refl : Later D A s s
  | step {t t' : State} {e : Step} (before : Later D A s t) (may : permitted D A e t = true)
      (stepped : Cluster.step D e t = some t') : Later D A s t'

theorem Later.reachable (later : Later D A s s') (reachable : Reachable D A s) : Reachable D A s' := by
  induction later with
  | refl => exact reachable
  | step before may stepped ih => exact ih.step may stepped

/-- The row is over, and ended as `row` did. -/
def Ended (row : Batch) (table : Table) : Prop :=
  ∃ row' ∈ table, row'.id = row.id ∧ Frozen row row'

theorem row_over (safe : SysInv D A s) (alone : A.alone = true) {e : Step}
    (may : permitted D A e s = true) (stepped : step D e s = some s') {row : Batch}
    (mem : row ∈ s.world.table) (terminal : row.status ∈ TERMINAL_STATUSES) :
    Ended row s'.world.table := by
  have found := safe.world.view_of_mem mem
  rcases view_step safe may stepped row.id with same | ⟨a, changed⟩
  · rw [← same] at found
    exact ⟨row, (mem_of_view found).1, rfl, Frozen.refl row⟩
  · obtain ⟨row', found', frozen⟩ := changed.ended (.inl alone) found (not_active_of_terminal terminal)
    obtain ⟨mem', id⟩ := mem_of_view found'
    exact ⟨row', mem', id, frozen⟩

/-- Only the status of Ray's jobs is assumed to move forward. -/
def forwardOnly : Assumed := ⟨false, true, false, false, false⟩

theorem Later.of_drive {policy : Op → World → Event} {pid count : Nat}
    (driven : drive D A policy pid count s = some s') : Later D A s s' := by
  have onward : ∀ count t, Later D A s t → drive D A policy pid count t = some s' → Later D A s s' := by
    intro count
    induction count with
    | zero =>
        intro t before driven
        cases driven
        exact before
    | succ count ih =>
        intro t before driven
        simp only [drive] at driven
        split at driven
        · obtain ⟨may, driven⟩ := Option.ite_none_right_eq_some.1 driven
          obtain ⟨t', stepped, driven⟩ := Option.bind_eq_some_iff.1 driven
          exact ih t' (before.step may stepped) driven
        · cases driven
          exact before
  exact onward count s .refl driven

theorem Later.trans {t : State} (first : Later D A s t) (second : Later D A t s') : Later D A s s' := by
  induction second with
  | refl => exact first
  | step before may stepped ih => exact ih.step may stepped

theorem Later.of_play {policy : Op → World → Event} {scenes : List Scene}
    (played : play D A policy scenes s = some s') : Later D A s s' := by
  induction scenes generalizing s with
  | nil =>
      cases played
      exact .refl
  | cons scene scenes ih =>
      cases scene with
      | one e =>
          obtain ⟨may, played⟩ := Option.ite_none_right_eq_some.1 played
          obtain ⟨t, stepped, played⟩ := Option.bind_eq_some_iff.1 played
          exact (Later.refl.step may stepped).trans (ih played)
      | runs pid count =>
          obtain ⟨t, driven, played⟩ := Option.bind_eq_some_iff.1 played
          exact (Later.of_drive driven).trans (ih played)

end KubeRayBatch.Cluster
