/-
# Cluster.Results -- completed means complete

A row becomes `completed` only after Ray has reported success, Ray reports success only
after the job has exited with status 0, and the job exits with status 0 only when its
whole output and the record of its counts are in place.  Nobody changes the directory
after that.

* `output_whole`: what a job that exited with status 0 left is the whole output of its
  row, and its counts are those of the lines of the file;
* `completed_is_complete`: so it is for every completed row of every reachable state, and
  neither the poller nor a reader finds a file missing.
-/
import KubeRayBatch.Cluster.Rows

namespace KubeRayBatch.Cluster

open Theory Api Worker

set_option autoImplicit false

/-! ## The records of a result file -/

/-- The non-blank lines. -/
def records (content : Text) : List Text :=
  (TextLines.lines content).filter fun line => !TextLines.blank line

/-- The `error` entry of a record. -/
def recordError (line : Text) : Option Json.Value :=
  match Json.loads line with
  | some (.obj members) => Json.Value.get? members "error".toList
  | _ => none

/-- `error` is null. -/
def answeredLine (line : Text) : Bool :=
  match recordError line with
  | some .null => true
  | _ => false

/-- `error` is there and not null. -/
def failedLine (line : Text) : Bool :=
  match recordError line with
  | none | some .null => false
  | some _ => true

section Records

variable (writer : ResultWriter)

theorem records_file (rows : List OutputRow) :
    records (writer.file rows) = rows.map fun row => writer.encode row ++ ['\n'] := by
  unfold records
  rw [lines_file, List.filter_eq_self]
  intro line mem
  obtain ⟨row, -, rfl⟩ := List.mem_map.1 mem
  simp [line_not_blank]

theorem recordError_line (row : OutputRow) :
    recordError (writer.encode row ++ ['\n']) = some (jsonText row.error) := by
  unfold recordError
  rw [loads_line]
  rfl

theorem count_records (rows : List OutputRow) :
    (records (writer.file rows)).countP answeredLine = completedRows rows ∧
      (records (writer.file rows)).countP failedLine = failedRows rows := by
  rw [records_file, List.countP_map, List.countP_map]
  constructor <;> refine List.countP_congr fun row _ => ?_ <;>
    cases error : row.error <;>
      simp [answeredLine, failedLine, recordError_line, error, jsonText]

theorem length_records (rows : List OutputRow) :
    (TextLines.lines (writer.file rows)).length = rows.length := by
  rw [lines_file, List.length_map]

end Records

/-! ## What a job leaves -/

/-- The directory holds the whole output of the row, as Ray wrote it for the rows that it read
in the input file, and the counts are those of its records. -/
structure WholeOutput (D : Deployment) (row : Batch) (completed failed : Int) (dir : Dir)
    (content : Text) : Prop where
  results : dir.file .results = some content
  written : ∃ (input : Text) (rows : List InputRow) (name : String),
    dir.file .input = some input ∧ D.rd.read_json input = some rows ∧
      D.rd.may_write (planOf rows row.model row.max_tokens) name content = true
  completed_count : completed = (records content).countP answeredLine
  failed_count : failed = (records content).countP failedLine
  total : completed + failed = row.input_count
  lines : ((TextLines.lines content).length : Int) = completed + failed

variable {D : Deployment} {A : Assumed} {s : State}

theorem output_whole {writer : ResultWriter} (lawful : Lawful writer D.rd) {b : String} {u : Ulid}
    {request : CreateBatchRequest} {dir : Dir} {row : Batch} {counts : Counts}
    (posted : Posted u request b dir row) (output : Output D b row counts dir) :
    ∃ content, WholeOutput D row counts.completed counts.failed dir content := by
  obtain ⟨o, left⟩ := output
  -- the only staged file is the one that was promoted
  have own : o.result = o.content := by
    have found := left.chosen.content
    rw [List.nil_append, List.lookup_cons] at found
    split at found
    · exact (Option.some.inj found).symm
    · cases found
  have rows : o.rows.length = request.input.length := by
    have read := left.read
    rw [Option.some.inj (left.input.symm.trans posted.input)] at read
    exact lawful.rows request.input o.rows read
  obtain ⟨schedule, outs, executed, content⟩ := lawful.writes _ _ _ left.written.allowed
  have explained := (schedule_output executed).2
  have length : outs.length = request.input.length := by
    rw [schedule_length executed]
    exact rows
  have file : o.result = writer.file outs := own.trans content
  have tallied := left.tallied
  rw [file, tally_file writer D.rt outs explained] at tallied
  obtain ⟨completed, failed⟩ := Prod.mk.inj (Except.ok.inj tallied)
  obtain ⟨answered, refused⟩ := count_records writer outs
  have sum := completed_add_failed outs
  refine ⟨o.result, left.results, ⟨o.text, o.rows, o.name, left.input, left.read, ?_⟩, ?_, ?_, ?_, ?_⟩
  · rw [own]
    exact left.written.allowed
  · rw [file, answered, completed]
  · rw [file, refused, failed]
  · rw [posted.input_count]
    omega
  · rw [file, length_records]
    omega

/-! ## Completed rows -/

section Completed

variable {writer : ResultWriter}

theorem completed_whole (safe : SysInv D A s) (honest : A.honest = true) (lawful : Lawful writer D.rd)
    {row : Batch} (mem : row ∈ s.world.table) (completed : row.status = "completed") :
    ∃ content, WholeOutput D row row.completed_count row.failed_count (s.world.dirs row.id) content := by
  have sound := (safe.world.sound row.id).row row (safe.world.view_of_mem mem)
  obtain ⟨u, request, posted⟩ := sound.origin
  obtain ⟨counts, final, completed_count, failed_count⟩ := (sound.shown honest).completed completed
  rw [completed_count, failed_count]
  exact output_whole lawful posted final.output

/-- What a reader streamed are the lines of the whole output. -/
theorem streamed_whole (safe : SysInv D A s) (honest : A.honest = true) (lawful : Lawful writer D.rd)
    {pid : Nat} {b : String} {lines : List Text}
    (returned : s.procs[pid]? = some ⟨.reader b, true, .ret lines⟩) {row : Batch}
    (found : s.world.table.get b = some row) (completed : row.status = "completed") :
    (lines.length : Int) = row.completed_count + row.failed_count := by
  have kept := safe.follows pid _ returned rfl
  obtain ⟨_, counts, -, -, content, results, rfl⟩ :=
    Contract.Holds.returned (X := fun _ => Role.fails pid (.reader b)) kept safe.world honest
  obtain rfl := Table.get_id found
  obtain ⟨content', whole⟩ := completed_whole safe honest lawful (Table.get_mem found) completed
  obtain rfl : content = content' := Option.some.inj (results.symm.trans whole.results)
  exact whole.lines

/-- Where the files of a completed batch are looked for. -/
def Sought (role : Role) (op : Op) (w : World) : Prop :=
  match role, op with
  | .poller, .dir b (.exists .success) => ∃ content, (w.dirs b).file .success = some content
  | .reader _, .dir b (.exists .results) => ∃ content, (w.dirs b).file .results = some content
  | _, _ => True

theorem sought_of_expected (honest : A.honest = true) {role : Role} {pid : Nat} {op : Op} {w : World}
    (expected : Expected A (role.actor pid) op w) : Sought role op w := by
  unfold Sought
  split
  · exact Option.isSome_iff_exists.1 (expected honest)
  · exact Option.isSome_iff_exists.1 (expected honest)
  · trivial

/-- **key theorem.** In every reachable state a completed row has the whole output of its
job in its directory and the counts of its records; a poller that looks for `_SUCCESS` and a
reader that looks for the results find them; and what a reader streamed of a completed
batch has as many records as the row counts. -/
theorem completed_is_complete (honest : A.honest = true) (lawful : Lawful writer D.rd)
    (reachable : Reachable D A s) :
    (∀ row ∈ s.world.table, row.status = "completed" → ∃ content,
        WholeOutput D row row.completed_count row.failed_count (s.world.dirs row.id) content) ∧
      (∀ (pid : Nat) (p : Process) (op : Op) (next : Except PyException op.Res → Proc p.role.Result),
        s.procs[pid]? = some p → p.alive = true → p.program = .call op next →
          Sought p.role op s.world) ∧
      ∀ (pid : Nat) (b : String) (lines : List Text) (row : Batch),
        s.procs[pid]? = some ⟨.reader b, true, .ret lines⟩ → s.world.table.get b = some row →
          row.status = "completed" → (lines.length : Int) = row.completed_count + row.failed_count := by
  have safe := reachable_inv reachable
  refine ⟨fun row mem completed => completed_whole safe honest lawful mem completed, ?_, ?_⟩
  · intro pid p op next found alive asks
    exact sought_of_expected honest (asked_for_present safe found alive asks)
  · intro pid b lines row returned found completed
    exact streamed_whole safe honest lawful returned found completed

end Completed

/-! ### Fetched results -/

/-- A finished reader, with the batch and the lines that it streamed. -/
def streamed (p : Process) : Option (String × List Text) :=
  match p with
  | ⟨.reader b, true, .ret lines⟩ => some (b, lines)
  | _ => none

theorem streamed_eq {p : Process} {b : String} {lines : List Text}
    (isStreamed : streamed p = some (b, lines)) : p = ⟨.reader b, true, .ret lines⟩ := by
  unfold streamed at isStreamed
  split at isStreamed
  · cases isStreamed
    rfl
  · cases isStreamed

/-- The results are fetched after the row was completed. -/
def fetching : List Scene :=
  completionOf mixedRequest ++ [.one (.fetch (newBatchId sampleUlid)), .runs 3 1000]

theorem fetching_played : ∃ s lines row, Reachable sampleDeployment .all s ∧
    s.procs[3]? = some ⟨.reader (newBatchId sampleUlid), true, .ret lines⟩ ∧ lines.length = 3 ∧
    s.world.table.get (newBatchId sampleUlid) = some row ∧ row.status = "completed" ∧
    row.completed_count = 2 ∧ row.failed_count = 1 := by
  have value : ((play sampleDeployment .all sunny fetching .init).bind fun s =>
      (s.procs[3]?.bind streamed).map fun p => (p.1, p.2.length,
        (s.world.table.get (newBatchId sampleUlid)).map fun row =>
          (row.status, row.completed_count, row.failed_count))) =
      some (newBatchId sampleUlid, 3, some ("completed", 2, 1)) := by decide +kernel
  obtain ⟨s, played, rest⟩ := Option.bind_eq_some_iff.1 value
  obtain ⟨⟨b, lines⟩, isStreamed, shown⟩ := Option.map_eq_some_iff.1 rest
  obtain ⟨rfl, shown⟩ := Prod.mk.inj shown
  obtain ⟨length, shown⟩ := Prod.mk.inj shown
  obtain ⟨row, own, columns⟩ := Option.map_eq_some_iff.1 shown
  obtain ⟨status, counts⟩ := Prod.mk.inj columns
  obtain ⟨completed, failed⟩ := Prod.mk.inj counts
  obtain ⟨p, found, isStreamed⟩ := Option.bind_eq_some_iff.1 isStreamed
  obtain rfl := streamed_eq isStreamed
  exact ⟨s, lines, row, reachable_play .init played, found, length, own, status, completed, failed⟩

/-- A whole life, from the request to the results that a reader fetched. -/
theorem completed_is_complete_fetched : ∃ s lines row, Reachable sampleDeployment .all s ∧
    s.procs[3]? = some ⟨.reader (newBatchId sampleUlid), true, .ret lines⟩ ∧
    row ∈ s.world.table ∧ row.status = "completed" ∧ lines.length = 3 ∧
    (lines.length : Int) = row.completed_count + row.failed_count ∧
    row.completed_count = 2 ∧ row.failed_count = 1 ∧
    ∃ content, WholeOutput sampleDeployment row row.completed_count row.failed_count
      (s.world.dirs row.id) content := by
  obtain ⟨s, lines, row, reachable, found, length, own, status, completed, failed⟩ := fetching_played
  have mem := Table.get_mem own
  have complete := completed_is_complete rfl (lawful_answering picky_isolated) reachable
  exact ⟨s, lines, row, reachable, found, mem, status, length, complete.2.2 3 _ lines row found own status,
    completed, failed, complete.1 row mem status⟩

end KubeRayBatch.Cluster
