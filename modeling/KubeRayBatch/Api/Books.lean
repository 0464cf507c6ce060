/-
# Api.Books -- the table and the counters as two books

`Books` holds the table, the counters that were bumped, and a `Stance` for each task of the
API process.  `Audited` says how the books agree at every moment: what was counted and what
is in the table differ by what the tasks still owe, and every note of a task is true.

* `Audited.entry`: a change of the books by one task keeps them, if it balances;
* `audited_insert`, `audited_attach`, `audited_submitted`, `audited_terminal`,
  `audited_ended`, `audited_updated`: the entries of handlers and sweeps balance;
* `Audited.agrees`: where nothing is owed, the counters are the numbers of rows.
-/
import KubeRayBatch.Theory.Entries
import KubeRayBatch.Api.Counters
import Mathlib.Algebra.Order.Group.Nat

namespace KubeRayBatch.Api

open Theory Cluster

set_option autoImplicit false

/-! ## Rows -/

namespace Table

/-- The row is there, not at its end, and has a job or not. -/
def Live (table : Table) (b model : String) (attached : Bool) : Prop :=
  ∃ row, table.get b = some row ∧ row.model = model ∧ row.ray_job_id.isSome = attached ∧
    isActive row.status = true

/-- How many rows of the model have a job. -/
def submitted (table : Table) (model : String) : Nat :=
  table.countP fun row => row.model == model && row.ray_job_id.isSome

/-- How many rows of the model have this status. -/
def ended (table : Table) (model status : String) : Nat :=
  table.countP fun row => row.model == model && row.status == status

variable {table table' : Table} {now : Nat} {b model : String} {attached : Bool}

theorem Live.attached_eq {model' : String} {attached' : Bool} (live : table.Live b model attached)
    (live' : table.Live b model' attached') : attached = attached' := by
  obtain ⟨row, found, -, rfl, -⟩ := live
  obtain ⟨row', found', -, rfl, -⟩ := live'
  cases found.symm.trans found'
  rfl

theorem insert_absent {new : NewBatch}
    (committed : Table.commit now (.insert new) table = some table') : table.get new.id = none := by
  simp only [Table.commit] at committed
  split at committed
  · assumption
  · cases committed

theorem Live.insert {new : NewBatch} (live : table.Live b model attached)
    (committed : Table.commit now (.insert new) table = some table') :
    table'.Live b model attached := by
  obtain ⟨row, found, rest⟩ := live
  have other : b ≠ new.id := by
    rintro rfl
    cases found.symm.trans (insert_absent committed)
  refine ⟨row, ?_, rest⟩
  rw [get_commit committed, after, if_neg other, found]

theorem Live.update_other {key : String} {changes : Changes} (live : table.Live b model attached)
    (other : b ≠ key) (committed : Table.commit now (.update key changes) table = some table') :
    table'.Live b model attached := by
  obtain ⟨row, found, rest⟩ := live
  refine ⟨row, ?_, rest⟩
  rw [get_commit committed, after, if_neg other, found]

/-- An update that neither attaches a job nor ends a batch. -/
theorem Live.update_kept {key : String} {changes : Changes} (live : table.Live b model attached)
    (job : changes.ray_job_id = none)
    (active : ∀ status, changes.status = some status → isActive status = true)
    (committed : Table.commit now (.update key changes) table = some table') :
    table'.Live b model attached := by
  by_cases same : b = key
  · obtain ⟨row, found, isModel, isAttached, isOpen⟩ := live
    refine ⟨changes.apply now row, ?_, isModel, ?_, ?_⟩
    · rw [get_commit committed, after, if_pos same, found]
      rfl
    · simp only [Changes.apply, job, Option.getD_none]
      exact isAttached
    · show isActive (changes.status.getD row.status) = true
      cases assigned : changes.status with
      | none => exact isOpen
      | some status => exact active status assigned
  · exact live.update_other same committed

/-- A row that is inserted is counted once. -/
theorem countP_insert {new : NewBatch} (p : Batch → Bool)
    (committed : Table.commit now (.insert new) table = some table') :
    table'.countP p = table.countP p + (p (new.row now)).toNat := by
  simp only [Table.commit, insert_absent committed] at committed
  cases committed
  cases fits : p (new.row now) <;> simp [List.countP_append, fits]

theorem map_absent (f : Batch → Batch) (absent : ∀ row ∈ table, row.id ≠ b) :
    (table.map fun row => if row.id = b then f row else row) = table := by
  refine (List.map_congr_left fun row mem => ?_).trans table.map_id
  rw [if_neg (absent row mem)]
  rfl

/-- The rows with one key, counted before and after they change. -/
theorem countP_map {row : Batch} (p : Batch → Bool) (f : Batch → Batch) (keyed : table.Keyed)
    (found : table.get b = some row) :
    (table.map fun row => if row.id = b then f row else row).countP p + (p row).toNat =
      table.countP p + (p (f row)).toNat := by
  induction table with
  | nil => cases found
  | cons head rest ih =>
      obtain ⟨fresh, keyed⟩ := List.nodup_cons.1 keyed
      rw [get_cons] at found
      by_cases same : head.id = b
      · rw [if_pos same] at found
        cases found
        have absent : ∀ row' ∈ rest, row'.id ≠ b := fun row' mem again =>
          fresh (List.mem_map.2 ⟨row', mem, again.trans same.symm⟩)
        rw [List.map_cons, if_pos same, map_absent f absent, List.countP_cons, List.countP_cons]
        cases p row <;> cases p (f row) <;> simp
      · rw [if_neg same] at found
        have later := ih keyed found
        rw [List.map_cons, if_neg same, List.countP_cons, List.countP_cons]
        omega

/-- A row that is updated is counted as it was and as it is. -/
theorem countP_update {row : Batch} {changes : Changes} (p : Batch → Bool) (keyed : table.Keyed)
    (found : table.get b = some row)
    (committed : Table.commit now (.update b changes) table = some table') :
    table'.countP p + (p row).toNat = table.countP p + (p (changes.apply now row)).toNat := by
  rw [commit_update committed]
  exact countP_map p _ keyed found

end Table

/-! ## Stances -/

/-- What a task stands for; a task that has ended owes nothing. -/
inductive Stance where
  | gone
  | request (n : HandlerNote)
  | round (n : RoundNote)

namespace Stance

/-- A submission of this model is committed and not counted. -/
def owes (model : String) : Stance → Bool
  | .request (.owes model') => model' == model
  | _ => false

/-- An end of this kind is counted and not committed. -/
def paid (model status : String) : Stance → Bool
  | .round (.paid _ _ model' status') => model' == model && status' == status
  | _ => false

/-- The rows that the task still counts on. -/
def ids : Stance → List String
  | .request (.waiting b _) => [b]
  | .round (.polling ids _) => ids
  | .round (.paid ids _ _ _) => ids
  | _ => []

/-- What the note says is true of the table. -/
def Meets (table : Table) : Stance → Prop
  | .request (.waiting b model) => table.Live b model false
  | .round (.polling ids loaded) => (∀ b ∈ ids, ∃ model, table.Live b model true) ∧
      ∀ b model, loaded = some (b, model) → b ∈ ids → table.Live b model true
  | .round (.paid ids b model status) => (∀ b ∈ ids, ∃ model, table.Live b model true) ∧ b ∈ ids ∧
      table.Live b model true ∧ status ∈ TERMINAL_STATUSES
  | _ => True

/-- Another table in which these rows are still live. -/
theorem Meets.frame {table table' : Table} {st : Stance} (meets : st.Meets table)
    (kept : ∀ b ∈ st.ids, ∀ model attached,
      table.Live b model attached → table'.Live b model attached) : st.Meets table' := by
  cases st with
  | gone => trivial
  | request n =>
      cases n with
      | waiting b model => exact kept b (List.mem_singleton_self b) model false meets
      | idle | owes => trivial
  | round n =>
      cases n with
      | starting => trivial
      | polling ids loaded =>
          obtain ⟨live, isLoaded⟩ := meets
          refine ⟨fun b mem => ?_, fun b model same mem => ?_⟩
          · obtain ⟨model, live⟩ := live b mem
            exact ⟨model, kept b mem model true live⟩
          · exact kept b mem model true (isLoaded b model same mem)
      | paid ids b model status =>
          obtain ⟨live, mem, here, terminal⟩ := meets
          refine ⟨fun b mem => ?_, mem, kept b mem model true here, terminal⟩
          obtain ⟨model, live⟩ := live b mem
          exact ⟨model, kept b mem model true live⟩

end Stance

/-! ## The books -/

structure Books where
  table : Table
  increments : List Counter
  stances : List Stance

/-- The books agree, but for what the tasks owe. -/
structure Audited (books : Books) : Prop where
  keyed : books.table.Keyed
  meets : ∀ (i : Nat) (st : Stance), books.stances[i]? = some st → st.Meets books.table
  /-- A row is waiting for one handler only. -/
  alone : ∀ (i j : Nat) b model model', books.stances[i]? = some (Stance.request (.waiting b model)) →
    books.stances[j]? = some (Stance.request (.waiting b model')) → i = j
  /-- There is one sweep at a time. -/
  one : ∀ (i j : Nat) n n', books.stances[i]? = some (Stance.round n) →
    books.stances[j]? = some (Stance.round n') → i = j
  submitted : ∀ model, books.increments.count (.batch_submitted_total model) +
    books.stances.countP (Stance.owes model) = books.table.submitted model
  ended : ∀ model, ∀ status ∈ TERMINAL_STATUSES,
    books.increments.count (.batch_terminal_total model status) =
      books.table.ended model status + books.stances.countP (Stance.paid model status)

/-- The change that a task makes, from its stance `st` to the stance `st'`. -/
structure Entry (books : Books) (i : Nat) (st : Stance) (table : Table) (increments : List Counter)
    (st' : Stance) : Prop where
  keyed : table.Keyed
  own : st'.Meets table
  others : ∀ (j : Nat) (other : Stance), j ≠ i → books.stances[j]? = some other → other.Meets table
  waits : ∀ b model, st' = .request (.waiting b model) → st = st' ∨ books.table.get b = none
  sweeps : ∀ n, st' = .round n → ∃ n₀, st = .round n₀
  submitted : ∀ model, increments.count (.batch_submitted_total model) +
      books.table.submitted model + (st'.owes model).toNat =
    books.increments.count (.batch_submitted_total model) + table.submitted model +
      (st.owes model).toNat
  ended : ∀ model, ∀ status ∈ TERMINAL_STATUSES,
    increments.count (.batch_terminal_total model status) + books.table.ended model status +
        (st.paid model status).toNat =
      books.increments.count (.batch_terminal_total model status) + table.ended model status +
        (st'.paid model status).toNat

/-- **An entry that balances** keeps the books. -/
theorem Audited.entry {books : Books} (audited : Audited books) {i : Nat} {st st' : Stance}
    {table : Table} {increments : List Counter} (here : books.stances[i]? = some st)
    (entry : Entry books i st table increments st') :
    Audited ⟨table, increments, books.stances.set i st'⟩ where
  keyed := entry.keyed
  meets := by
    intro j other found
    rcases getElem?_set_one found with ⟨rfl, rfl⟩ | ⟨other_index, found⟩
    · exact entry.own
    · exact entry.others j other other_index found
  alone := by
    -- a row that this task starts to wait for is new, so no other task waits for it
    have fresh : ∀ j b model model', st' = .request (.waiting b model) → j ≠ i →
        books.stances[j]? ≠ some (.request (.waiting b model')) := by
      intro j b model model' becomes other found
      rcases entry.waits b model becomes with same | absent
      · exact other (audited.alone j i b model' model found (by rw [here, same, becomes]))
      · obtain ⟨row, isRow, -⟩ := audited.meets j _ found
        cases absent.symm.trans isRow
    intro j k b model model' at_j at_k
    rcases getElem?_set_one at_j with ⟨here_j, same⟩ | ⟨other, was_j⟩
    · rcases getElem?_set_one at_k with ⟨here_k, -⟩ | ⟨other', was_k⟩
      · exact here_j.trans here_k.symm
      · exact absurd was_k (fresh k b model model' same.symm other')
    · rcases getElem?_set_one at_k with ⟨-, same⟩ | ⟨-, was_k⟩
      · exact absurd was_j (fresh j b model' model same.symm other)
      · exact audited.alone j k b model model' was_j was_k
  one := by
    have before : ∀ (j : Nat) n, (books.stances.set i st')[j]? = some (Stance.round n) →
        ∃ n₀, books.stances[j]? = some (Stance.round n₀) := by
      intro j n found
      rcases getElem?_set_one found with ⟨rfl, same⟩ | ⟨-, found⟩
      · obtain ⟨n₀, rfl⟩ := entry.sweeps n same.symm
        exact ⟨n₀, here⟩
      · exact ⟨n, found⟩
    intro j k n n' at_j at_k
    obtain ⟨n₀, was_j⟩ := before j n at_j
    obtain ⟨n₀', was_k⟩ := before k n' at_k
    exact audited.one j k n₀ n₀' was_j was_k
  submitted := by
    intro model
    have was := audited.submitted model
    have moves := entry.submitted model
    have replaced := countP_replace (y := st') (Stance.owes model) here
    show increments.count _ + (books.stances.set i st').countP _ = table.submitted model
    omega
  ended := by
    intro model status terminal
    have was := audited.ended model status terminal
    have moves := entry.ended model status terminal
    have replaced := countP_replace (y := st') (Stance.paid model status) here
    show increments.count _ = table.ended model status + (books.stances.set i st').countP _
    omega

/-! ### The entries -/

/-- The counters of batches stand where they stood. -/
structure SameCounts (increments increments' : List Counter) : Prop where
  submitted : ∀ model, increments.count (.batch_submitted_total model) =
    increments'.count (.batch_submitted_total model)
  terminal : ∀ model status, increments.count (.batch_terminal_total model status) =
    increments'.count (.batch_terminal_total model status)

theorem SameCounts.refl (increments : List Counter) : SameCounts increments increments :=
  ⟨fun _ => rfl, fun _ _ => rfl⟩

theorem same_counts_failure (increments : List Counter) (reason : String) :
    SameCounts (increments ++ [.rayjob_submit_failures_total reason]) increments :=
  ⟨fun model => by simp [List.count_append], fun model status => by simp [List.count_append]⟩

section Entries

variable {books : Books} {i now : Nat} {table : Table}

/-- A task that takes another stance, with the same debts. -/
theorem Audited.still (audited : Audited books) {st st' : Stance} {increments : List Counter}
    (here : books.stances[i]? = some st) (own : st'.Meets books.table)
    (waits : ∀ b model, st' = .request (.waiting b model) → st = st')
    (sweeps : ∀ n, st' = .round n → ∃ n₀, st = .round n₀)
    (owes : ∀ model, st'.owes model = st.owes model)
    (paid : ∀ model status, st'.paid model status = st.paid model status)
    (counts : SameCounts increments books.increments) :
    Audited ⟨books.table, increments, books.stances.set i st'⟩ := by
  refine audited.entry here ⟨audited.keyed, own, fun j other _ found => audited.meets j other found,
    fun b model same => .inl (waits b model same), sweeps, fun model => ?_, fun model status _ => ?_⟩
  · rw [counts.submitted model, owes model]
  · rw [counts.terminal model status, paid model status]

/-- Nothing of the books changes but other counters. -/
theorem Audited.counts (audited : Audited books) {increments : List Counter}
    (counts : SameCounts increments books.increments) :
    Audited ⟨books.table, increments, books.stances⟩ where
  keyed := audited.keyed
  meets := audited.meets
  alone := audited.alone
  one := audited.one
  submitted := fun model => by rw [counts.submitted model]; exact audited.submitted model
  ended := fun model status terminal => by
    rw [counts.terminal model status]; exact audited.ended model status terminal

theorem active_not_ended {row : Batch} {model status : String} (active : isActive row.status = true)
    (terminal : status ∈ TERMINAL_STATUSES) :
    (row.model == model && row.status == status) = false := by
  have other : row.status ≠ status := by
    rintro rfl
    rw [not_active_of_terminal terminal] at active
    cases active
  simp [other]

/-- A handler inserts its row. -/
theorem audited_insert (audited : Audited books) {new : NewBatch} (queued : new.status = "queued")
    (here : books.stances[i]? = some (.request .idle))
    (committed : Table.commit now (.insert new) books.table = some table) :
    Audited ⟨table, books.increments,
      books.stances.set i (.request (.waiting new.id new.model))⟩ := by
  refine audited.entry here ⟨audited.keyed.commit committed, ?_, fun j other _ found => ?_, ?_,
    nofun, fun model => ?_, fun model status terminal => ?_⟩
  · refine ⟨new.row now, ?_, rfl, rfl, by show isActive new.status = true; rw [queued]; rfl⟩
    rw [Table.get_commit committed, Table.after, if_pos rfl]
  · exact (audited.meets j other found).frame fun b _ model attached live => live.insert committed
  · rintro b model same
    cases same
    exact .inr (Table.insert_absent committed)
  · have counted := Table.countP_insert
      (fun row => row.model == model && row.ray_job_id.isSome) committed
    simp only [NewBatch.row, Option.isSome_none, Bool.and_false, Bool.toNat_false] at counted
    show _ + books.table.submitted model + _ = _ + table.submitted model + _
    simp only [Table.submitted, counted, Stance.owes]
    rfl
  · have counted := Table.countP_insert (fun row => row.model == model && row.status == status)
      committed
    have active : isActive (new.row now).status = true := by
      show isActive new.status = true
      rw [queued]
      rfl
    rw [active_not_ended active terminal] at counted
    show _ + books.table.ended model status + _ = _ + table.ended model status + _
    simp only [Table.ended, counted, Stance.paid]
    rfl

/-- What an update of a live row does to the numbers of rows. -/
theorem update_counts {b model : String} {attached : Bool} {changes : Changes}
    (audited : Audited books) (live : books.table.Live b model attached)
    (committed : Table.commit now (.update b changes) books.table = some table) :
    (∀ model', table.submitted model' + (model == model' && attached).toNat =
      books.table.submitted model' +
        (model == model' && (changes.ray_job_id.map Option.isSome).getD attached).toNat) ∧
    ∀ model', ∀ status ∈ TERMINAL_STATUSES, table.ended model' status =
      books.table.ended model' status + (model == model' && changes.status == some status).toNat := by
  obtain ⟨row, found, rfl, rfl, active⟩ := live
  constructor
  · intro model'
    have counted := Table.countP_update (fun row => row.model == model' && row.ray_job_id.isSome)
      audited.keyed found committed
    have job : (changes.apply now row).ray_job_id.isSome =
        (changes.ray_job_id.map Option.isSome).getD row.ray_job_id.isSome := by
      show (changes.ray_job_id.getD row.ray_job_id).isSome = _
      cases changes.ray_job_id <;> rfl
    rw [job] at counted
    exact counted
  · intro model' status terminal
    have counted := Table.countP_update (fun row => row.model == model' && row.status == status)
      audited.keyed found committed
    have becomes : ((changes.apply now row).status == status) = (changes.status == some status) := by
      show (changes.status.getD row.status == status) = _
      cases changes.status with
      | none =>
          have other : row.status ≠ status := by
            rintro rfl
            rw [not_active_of_terminal terminal] at active
            cases active
          simpa using other
      | some assigned => rfl
    rw [active_not_ended active terminal, becomes] at counted
    exact counted

/-- The stances of the other tasks survive the update of a row that none of them counts on. -/
theorem others_meet {b : String} {changes : Changes} (audited : Audited books)
    (committed : Table.commit now (.update b changes) books.table = some table)
    (elsewhere : ∀ (j : Nat) (other : Stance), j ≠ i → books.stances[j]? = some other → b ∉ other.ids)
    (j : Nat) (other : Stance) (not_i : j ≠ i) (found : books.stances[j]? = some other) :
    other.Meets table := by
  refine (audited.meets j other found).frame fun b' mem model attached live => ?_
  refine live.update_other ?_ committed
  rintro rfl
  exact elsewhere j other not_i found mem

/-- A row that a sweep counts on has a job; one that a handler waits for has none. -/
theorem live_of_ids {n : RoundNote} {b : String} (meets : (Stance.round n).Meets table)
    (mem : b ∈ (Stance.round n).ids) : ∃ model, table.Live b model true := by
  cases n with
  | starting => exact absurd mem List.not_mem_nil
  | polling ids loaded => exact meets.1 b mem
  | paid ids b' model status => exact meets.1 b mem

/-- A handler attaches the job to its row. -/
theorem audited_attach (audited : Audited books) {b model id : String} {changes : Changes}
    (job : changes.ray_job_id = some (some id)) (status : changes.status = none)
    (here : books.stances[i]? = some (.request (.waiting b model)))
    (committed : Table.commit now (.update b changes) books.table = some table) :
    Audited ⟨table, books.increments, books.stances.set i (.request (.owes model))⟩ := by
  have live : books.table.Live b model false := audited.meets i _ here
  obtain ⟨submitted, ended⟩ := update_counts audited live committed
  have elsewhere : ∀ (j : Nat) (other : Stance), j ≠ i → books.stances[j]? = some other →
      b ∉ other.ids := by
    intro j other not_i found mem
    cases other with
    | gone => exact absurd mem List.not_mem_nil
    | request n =>
        cases n with
        | waiting b' model' =>
            obtain rfl : b = b' := List.mem_singleton.1 mem
            exact not_i (audited.alone j i b model' model found here)
        | idle | owes => exact absurd mem List.not_mem_nil
    | round n =>
        obtain ⟨model', live'⟩ := live_of_ids (audited.meets j _ found) mem
        exact nomatch live.attached_eq live'
  refine audited.entry here ⟨audited.keyed.commit committed, trivial,
    others_meet audited committed elsewhere, nofun, nofun, fun model' => ?_,
    fun model' status' terminal => ?_⟩
  · have counted := submitted model'
    simp only [job, Option.map_some, Option.isSome_some, Option.getD_some, Bool.and_false,
      Bool.and_true, Bool.toNat_false] at counted
    simp only [Stance.owes, Bool.toNat_false]
    omega
  · have counted := ended model' status' terminal
    simp only [status, show ((none : Option String) == some status') = false from rfl,
      Bool.and_false, Bool.toNat_false] at counted
    simp only [Stance.paid, Bool.toNat_false]
    omega

/-- A handler counts its submission. -/
theorem audited_submitted (audited : Audited books) {model : String}
    (here : books.stances[i]? = some (.request (.owes model))) :
    Audited ⟨books.table, books.increments ++ [.batch_submitted_total model],
      books.stances.set i (.request .idle)⟩ := by
  refine audited.entry here ⟨audited.keyed, trivial, fun j other _ found =>
    audited.meets j other found, nofun, nofun, fun model' => ?_, fun model' status _ => ?_⟩
  · simp only [List.count_append, Stance.owes, Bool.toNat_false]
    by_cases same : model = model'
    · subst same
      simp
      omega
    · simp [same]
  · simp [List.count_append, Stance.paid]

/-- A sweep counts the end of the row that it has loaded. -/
theorem audited_terminal (audited : Audited books) {ids : List String} {b model status : String}
    (here : books.stances[i]? = some (.round (.polling ids (some (b, model))))) (mem : b ∈ ids)
    (terminal : status ∈ TERMINAL_STATUSES) :
    Audited ⟨books.table, books.increments ++ [.batch_terminal_total model status],
      books.stances.set i (.round (.paid ids b model status))⟩ := by
  obtain ⟨live, loaded⟩ := audited.meets i _ here
  refine audited.entry here ⟨audited.keyed, ⟨live, mem, loaded b model rfl mem, terminal⟩,
    fun j other _ found => audited.meets j other found, nofun, fun _ _ => ⟨_, rfl⟩,
    fun model' => ?_, fun model' status' _ => ?_⟩
  · simp [List.count_append, Stance.owes]
  · simp only [List.count_append, Stance.paid, Bool.toNat_false]
    by_cases same : model = model' ∧ status = status'
    · obtain ⟨rfl, rfl⟩ := same
      simp
      omega
    · have other : (model == model' && status == status') = false := by simpa using same
      have single : List.count (Counter.batch_terminal_total model' status')
          [.batch_terminal_total model status] = 0 := by
        rw [List.count_singleton]
        simpa using same
      rw [other, single]
      rfl

/-- No other task counts on a row that a sweep polls. -/
theorem sweeps_alone (audited : Audited books) {n : RoundNote} {b : String}
    (here : books.stances[i]? = some (.round n)) (mem : b ∈ (Stance.round n).ids) (j : Nat)
    (other : Stance) (not_i : j ≠ i) (found : books.stances[j]? = some other) : b ∉ other.ids := by
  intro mem'
  cases other with
  | gone => exact absurd mem' List.not_mem_nil
  | request n' =>
      cases n' with
      | waiting b' model' =>
          obtain rfl : b = b' := List.mem_singleton.1 mem'
          have live : books.table.Live b model' false := audited.meets j _ found
          obtain ⟨model, live'⟩ := live_of_ids (audited.meets i _ here) mem
          exact nomatch live.attached_eq live'
      | idle | owes => exact absurd mem' List.not_mem_nil
  | round n' => exact not_i (audited.one j i n' n found here)

/-- A sweep commits the end of a row. -/
theorem audited_ended (audited : Audited books) {ids : List String} {b model status : String}
    {changes : Changes} (job : changes.ray_job_id = none) (ends : changes.status = some status)
    (here : books.stances[i]? = some (.round (.paid ids b model status)))
    (committed : Table.commit now (.update b changes) books.table = some table) :
    Audited ⟨table, books.increments,
      books.stances.set i (.round (.polling (ids.filter (· ≠ b)) none))⟩ := by
  obtain ⟨lives, mem, live, terminal⟩ := audited.meets i _ here
  obtain ⟨submitted, ended⟩ := update_counts audited live committed
  refine audited.entry here ⟨audited.keyed.commit committed, ⟨fun b' mem' => ?_, nofun⟩,
    others_meet audited committed (sweeps_alone audited here mem), nofun, fun _ _ => ⟨_, rfl⟩,
    fun model' => ?_, fun model' status' terminal' => ?_⟩
  · obtain ⟨mem', other⟩ := List.mem_filter.1 mem'
    obtain ⟨model', live'⟩ := lives b' mem'
    exact ⟨model', live'.update_other (by simpa using other) committed⟩
  · have counted := submitted model'
    simp only [job, Option.map_none, Option.getD_none, Bool.and_true] at counted
    simp only [Stance.owes, Bool.toNat_false]
    omega
  · have counted := ended model' status' terminal'
    rw [ends] at counted
    have same : (some status == some status') = (status == status') := rfl
    rw [same] at counted
    simp only [Stance.paid, Bool.toNat_false]
    omega

/-- A sweep commits another change of a row. -/
theorem audited_updated (audited : Audited books) {ids : List String} {b : String}
    {loaded : Option (String × String)} {changes : Changes} (job : changes.ray_job_id = none)
    (active : ∀ status, changes.status = some status → isActive status = true)
    (here : books.stances[i]? = some (.round (.polling ids loaded))) (mem : b ∈ ids)
    (committed : Table.commit now (.update b changes) books.table = some table) :
    Audited ⟨table, books.increments, books.stances.set i (.round (.polling ids loaded))⟩ := by
  have meets := audited.meets i _ here
  obtain ⟨model, live⟩ := live_of_ids meets mem
  obtain ⟨submitted, ended⟩ := update_counts audited live committed
  refine audited.entry here ⟨audited.keyed.commit committed, meets.frame fun b' _ _ _ live' =>
      live'.update_kept job active committed,
    others_meet audited committed (sweeps_alone audited here mem), nofun, fun _ _ => ⟨_, rfl⟩,
    fun model' => ?_, fun model' status terminal => ?_⟩
  · have counted := submitted model'
    simp only [job, Option.map_none, Option.getD_none, Bool.and_true] at counted
    omega
  · have counted := ended model' status terminal
    have other : (changes.status == some status) = false := by
      cases assigned : changes.status with
      | none => rfl
      | some status' =>
          have opened := active status' assigned
          have differs : status' ≠ status := by
            rintro rfl
            rw [not_active_of_terminal terminal] at opened
            cases opened
          simpa using differs
    rw [other, Bool.and_false] at counted
    simp only [Bool.toNat_false] at counted
    omega

end Entries

/-! ### From empty books to books that agree -/

theorem audited_empty : Audited ⟨[], [], []⟩ where
  keyed := List.nodup_nil
  meets := by
    intro i st found
    cases found
  alone := by
    intro i j b model model' found
    cases found
  one := by
    intro i j n n' found
    cases found
  submitted := fun _ => rfl
  ended := fun _ _ _ => rfl

/-- A new task, that has done nothing yet. -/
theorem Audited.spawn {books : Books} (audited : Audited books) {st : Stance}
    (own : st.Meets books.table) (waits : ∀ b model, st ≠ .request (.waiting b model))
    (sweeps : ∀ n, st = .round n → ∀ (j : Nat) n', books.stances[j]? ≠ some (Stance.round n'))
    (owes : ∀ model, st.owes model = false) (paid : ∀ model status, st.paid model status = false) :
    Audited ⟨books.table, books.increments, books.stances ++ [st]⟩ where
  keyed := audited.keyed
  meets := by
    intro j other found
    rcases getElem?_append_one found with old | ⟨-, rfl⟩
    · exact audited.meets j other old
    · exact own
  alone := by
    intro j k b model model' at_j at_k
    rcases getElem?_append_one at_j with was_j | ⟨-, same⟩
    · rcases getElem?_append_one at_k with was_k | ⟨-, same⟩
      · exact audited.alone j k b model model' was_j was_k
      · exact absurd same.symm (waits b model')
    · exact absurd same.symm (waits b model)
  one := by
    intro j k n n' at_j at_k
    rcases getElem?_append_one at_j with was_j | ⟨here_j, same⟩
    · rcases getElem?_append_one at_k with was_k | ⟨-, same⟩
      · exact audited.one j k n n' was_j was_k
      · exact absurd was_j (sweeps n' same.symm j n)
    · rcases getElem?_append_one at_k with was_k | ⟨here_k, -⟩
      · exact absurd was_k (sweeps n same.symm k n')
      · exact here_j.trans here_k.symm
  submitted := by
    intro model
    rw [List.countP_append, List.countP_singleton, owes model]
    exact audited.submitted model
  ended := by
    intro model status terminal
    rw [List.countP_append, List.countP_singleton, paid model status]
    exact audited.ended model status terminal

/-- **Books without debts agree.** -/
theorem Audited.agrees {books : Books} (audited : Audited books)
    (owes : ∀ st ∈ books.stances, ∀ model, st.owes model = false)
    (paid : ∀ st ∈ books.stances, ∀ model status, st.paid model status = false) (model : String) :
    books.increments.count (.batch_submitted_total model) = books.table.submitted model ∧
      ∀ status ∈ TERMINAL_STATUSES, books.increments.count (.batch_terminal_total model status) =
        books.table.ended model status := by
  constructor
  · have none : books.stances.countP (Stance.owes model) = 0 :=
      List.countP_eq_zero.2 fun st mem => by rw [owes st mem model]; exact Bool.false_ne_true
    have agrees := audited.submitted model
    rwa [none] at agrees
  · intro status terminal
    have none : books.stances.countP (Stance.paid model status) = 0 :=
      List.countP_eq_zero.2 fun st mem => by rw [paid st mem model status]; exact Bool.false_ne_true
    have agrees := audited.ended model status terminal
    rwa [none] at agrees

end KubeRayBatch.Api
