/-
# Api.Db -- the batches table

A `Batch` is one row.  Code never writes a row: it loads one, assigns
attributes, and the commit of its session writes the columns whose value
differs from the loaded one (`Batch.changes`), on whatever the row holds by
then.  Times are microseconds of the process clock; `created_at` and
`updated_at` are filled in when the session is flushed.
-/
import KubeRayBatch.Api.Models

namespace KubeRayBatch.Api

set_option autoImplicit false

/-- One row per batch submission. -/
structure Batch where
  id : String
  status : String
  model : String
  ray_job_id : Option String
  input_count : Nat
  completed_count : Int
  failed_count : Int
  max_tokens : Nat
  error : Option String
  input_path : Option String
  results_path : Option String
  created_at : Nat
  updated_at : Nat
  completed_at : Option Nat
  deriving DecidableEq, Repr

/-- The columns a `Batch(...)` constructor call sets; the others take their
defaults. -/
structure NewBatch where
  id : String
  status : String
  model : String
  input_count : Nat
  max_tokens : Nat
  input_path : Option String
  results_path : Option String

def NewBatch.row (new : NewBatch) (now : Nat) : Batch where
  id := new.id
  status := new.status
  model := new.model
  ray_job_id := none
  input_count := new.input_count
  completed_count := 0
  failed_count := 0
  max_tokens := new.max_tokens
  error := none
  input_path := new.input_path
  results_path := new.results_path
  created_at := now
  updated_at := now
  completed_at := none

/-- The columns an `UPDATE` sets: those assigned a value other than the loaded
one.  Only the columns that code assigns after the insert are listed. -/
structure Changes where
  status : Option String
  ray_job_id : Option (Option String)
  completed_count : Option Int
  failed_count : Option Int
  error : Option (Option String)
  completed_at : Option (Option Nat)
  deriving DecidableEq, Repr

/-- The new value of a column, if it differs from the loaded one. -/
def changed {α : Type} [DecidableEq α] (loaded assigned : α) : Option α :=
  if assigned = loaded then none else some assigned

def Batch.changes (loaded assigned : Batch) : Changes where
  status := changed loaded.status assigned.status
  ray_job_id := changed loaded.ray_job_id assigned.ray_job_id
  completed_count := changed loaded.completed_count assigned.completed_count
  failed_count := changed loaded.failed_count assigned.failed_count
  error := changed loaded.error assigned.error
  completed_at := changed loaded.completed_at assigned.completed_at

/-- An integer of PostgreSQL. -/
def int4 (i : Int) : Bool := -2147483648 ≤ i && i ≤ 2147483647

namespace Changes

def none : Changes := ⟨.none, .none, .none, .none, .none, .none⟩

/-- The columns store their new values. -/
def storable (changes : Changes) : Bool :=
  changes.completed_count.all int4 && changes.failed_count.all int4

/-- The `UPDATE`, with the `onupdate` default of `updated_at`.  A session without
changes issues no statement. -/
def apply (changes : Changes) (now : Nat) (row : Batch) : Batch :=
  { row with
    status := changes.status.getD row.status
    ray_job_id := changes.ray_job_id.getD row.ray_job_id
    completed_count := changes.completed_count.getD row.completed_count
    failed_count := changes.failed_count.getD row.failed_count
    error := changes.error.getD row.error
    completed_at := changes.completed_at.getD row.completed_at
    updated_at := if changes = none then row.updated_at else now }

end Changes

@[simp] theorem changed_getD_self {α : Type} [DecidableEq α] (loaded assigned : α) :
    (changed loaded assigned).getD loaded = assigned := by
  unfold changed
  split
  · rename_i same
    rw [same]; rfl
  · rfl

@[simp] theorem changed_self {α : Type} [DecidableEq α] (x : α) : changed x x = none := by
  simp [changed]

/-- A change of the counts is stored if the new counts are. -/
theorem changed_all {α : Type} [DecidableEq α] (p : α → Bool) (loaded assigned : α) :
    (changed loaded assigned).all p = (decide (assigned = loaded) || p assigned) := by
  unfold changed
  split_ifs with same <;> simp [same]

@[simp] theorem changes_storable (row new : Batch) : (row.changes new).storable =
    ((decide (new.completed_count = row.completed_count) || int4 new.completed_count) &&
      (decide (new.failed_count = row.failed_count) || int4 new.failed_count)) := by
  rw [Changes.storable, Batch.changes, changed_all, changed_all]

/-- A session that loaded the row, assigned new values and was committed before anything
else changed it. -/
def Batch.assigned (row new : Batch) (now : Nat) : Batch := (row.changes new).apply now row

section Assigned

variable (row new : Batch) (now : Nat)

@[simp] theorem assigned_id : (row.assigned new now).id = row.id := rfl
@[simp] theorem assigned_status : (row.assigned new now).status = new.status :=
  changed_getD_self _ _
@[simp] theorem assigned_ray_job_id : (row.assigned new now).ray_job_id = new.ray_job_id :=
  changed_getD_self _ _
@[simp] theorem assigned_completed_count :
    (row.assigned new now).completed_count = new.completed_count :=
  changed_getD_self _ _
@[simp] theorem assigned_failed_count : (row.assigned new now).failed_count = new.failed_count :=
  changed_getD_self _ _
@[simp] theorem assigned_error : (row.assigned new now).error = new.error := changed_getD_self _ _
@[simp] theorem assigned_completed_at : (row.assigned new now).completed_at = new.completed_at :=
  changed_getD_self _ _

end Assigned

/-! ## The table -/

abbrev Table := List Batch

/-- `get_batch`: the row with this primary key. -/
def Table.get (table : Table) (id : String) : Option Batch := table.find? fun row => row.id == id

def isActive (status : String) : Bool := status == "queued" || status == "in_progress"

theorem not_active_of_terminal {status : String} (terminal : status ∈ TERMINAL_STATUSES) :
    isActive status = false := by
  simp only [TERMINAL_STATUSES, List.mem_cons, List.not_mem_nil, or_false] at terminal
  rcases terminal with rfl | rfl | rfl <;> rfl

/-- `list_active_batches`, in the table's order. -/
def Table.active (table : Table) : List Batch := table.filter fun row => isActive row.status

theorem Table.mem_active {table : Table} {row : Batch} :
    row ∈ table.active ↔ row ∈ table ∧ isActive row.status = true := List.mem_filter

/-- What a session holds when it is committed. -/
inductive Pending where
  | clean
  | insert (new : NewBatch)
  | update (id : String) (changes : Changes)

/-- The columns store what the session holds; a request's own numbers are small. -/
def Pending.storable : Pending → Bool
  | .clean | .insert _ => true
  | .update _ changes => changes.storable

/-- Flush and commit.  A duplicate key, a vanished row or a count beyond its column cannot be
committed. -/
def Table.commit (now : Nat) : Pending → Table → Option Table
  | .clean, table => some table
  | .insert new, table =>
      match table.get new.id with
      | none => some (table ++ [new.row now])
      | some _ => none
  | .update id changes, table =>
      match table.get id with
      | none => none
      | some _ =>
          if changes.storable then
            some (table.map fun row => if row.id = id then changes.apply now row else row)
          else none

namespace Table

theorem get_id {table : Table} {id : String} {row : Batch} (found : table.get id = some row) :
    row.id = id := by
  simpa using List.find?_some found

theorem get_mem {table : Table} {id : String} {row : Batch} (found : table.get id = some row) :
    row ∈ table :=
  List.mem_of_find?_eq_some found

theorem get_cons (row : Batch) (table : Table) (id : String) :
    Table.get (row :: table) id = if row.id = id then some row else Table.get table id := by
  unfold Table.get
  split
  · rename_i same
    exact List.find?_cons_of_pos (by simpa using same)
  · rename_i other
    exact List.find?_cons_of_neg (by simpa using other)

/-- Updating the rows with one key. -/
theorem get_map_update (table : Table) (key id : String) (f : Batch → Batch)
    (keeps : ∀ row, (f row).id = row.id) :
    Table.get (table.map fun row => if row.id = key then f row else row) id =
      if id = key then (table.get id).map f else table.get id := by
  induction table with
  | nil => simp [Table.get]
  | cons row table ih =>
      simp only [List.map_cons, get_cons, ih]
      by_cases atKey : row.id = key
      · simp only [atKey, if_true, keeps]
        by_cases same : key = id
        · simp [same]
        · simp [same, Ne.symm same]
      · simp only [atKey, if_false]
        by_cases same : row.id = id
        · simp [same, show id ≠ key from fun h => atKey (same.trans h)]
        · simp [same]

/-- An update that is committed. -/
theorem commit_update {now : Nat} {key : String} {changes : Changes} {table table' : Table}
    (committed : Table.commit now (.update key changes) table = some table') :
    table' = table.map fun row => if row.id = key then changes.apply now row else row := by
  simp only [Table.commit] at committed
  split at committed
  · cases committed
  · exact (Option.some.inj (Option.ite_none_right_eq_some.1 committed).2).symm

/-- The row with a key once a session is committed. -/
def after (now : Nat) (table : Table) (id : String) : Pending → Option Batch
  | .clean => table.get id
  | .insert new => if id = new.id then some (new.row now) else table.get id
  | .update key changes =>
      if id = key then (table.get id).map (changes.apply now) else table.get id

/-- What a commit does to each key. -/
theorem get_commit {now : Nat} {pending : Pending} {table table' : Table}
    (committed : Table.commit now pending table = some table') (id : String) :
    table'.get id = table.after now id pending := by
  cases pending with
  | clean =>
      cases committed
      rfl
  | insert new =>
      simp only [Table.commit] at committed
      split at committed
      · rename_i absent
        cases committed
        simp only [Table.get, List.find?_append] at absent ⊢
        by_cases same : id = new.id
        · subst same
          simp [after, absent, NewBatch.row]
        · have other : (new.row now).id ≠ id := fun h => same h.symm
          simp [after, Table.get, same, other]
      · cases committed
  | update key changes =>
      rw [commit_update committed]
      exact get_map_update table key id _ fun row => rfl

end Table

/-- The keys of a table are distinct. -/
def Table.Keyed (table : Table) : Prop := (table.map (·.id)).Nodup

namespace Table

theorem Keyed.get_of_mem {table : Table} (keyed : table.Keyed) {row : Batch} (mem : row ∈ table) :
    table.get row.id = some row := by
  induction table with
  | nil => simp at mem
  | cons head table ih =>
      simp only [Keyed, List.map_cons, List.nodup_cons, List.mem_map, not_exists, not_and] at keyed ih
      rw [get_cons]
      rcases List.mem_cons.1 mem with rfl | later
      · simp
      · have distinct : head.id ≠ row.id := fun same => keyed.1 row later same.symm
        rw [if_neg distinct, ih keyed.2 later]

theorem Keyed.commit {now : Nat} {pending : Pending} {table table' : Table} (keyed : table.Keyed)
    (committed : Table.commit now pending table = some table') : table'.Keyed := by
  cases pending with
  | clean =>
      cases committed
      exact keyed
  | insert new =>
      simp only [Table.commit] at committed
      split at committed
      · rename_i absent
        cases committed
        have fresh : ∀ row ∈ table, row.id ≠ new.id := by
          simpa [Table.get] using absent
        simp only [Keyed, List.map_append, List.map_cons, List.map_nil] at keyed ⊢
        rw [List.nodup_append]
        refine ⟨keyed, by simp, ?_⟩
        intro key inTable key' new' same
        obtain ⟨row, mem, rfl⟩ := List.mem_map.1 inTable
        have : key' = new.id := by simpa [NewBatch.row] using new'
        exact fresh row mem (same.trans this)
      · cases committed
  | update key changes =>
      have ids : (table.map fun row => if row.id = key then changes.apply now row else row).map
          (·.id) = table.map (·.id) := by
        rw [List.map_map]
        apply List.map_congr_left
        intro row _
        simp only [Function.comp_apply]
        split <;> rfl
      rw [commit_update committed]
      unfold Keyed
      rw [ids]
      exact keyed

end Table

end KubeRayBatch.Api
