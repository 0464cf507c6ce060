/-
# Client.EndToEnd -- from a request to its answers

A client posts a request, and somebody fetches the results of the batch.  In between are
the API, its database and its poller, Ray, and the worker's dataset, none of which waits for
the others.

* `answered_in_full`: whoever fetched the results of a batch decodes them to one record for
  each prompt of the request that made the row, each computed from a row that Ray read; where
  Ray read the prompts as they are, sorting the records gives the prompts in their order; and
  the counts of a completed row are those of the records;
* `results_final`: from the moment a row is completed, nothing changes what is fetched.
-/
import KubeRayBatch.Client.Benchmark
import KubeRayBatch.Cluster.Origin
import KubeRayBatch.Cluster.Results

namespace KubeRayBatch.Client

open Theory Cluster Worker Api

set_option autoImplicit false

/-! ## What an execution wrote -/

/-- An answer is computed from its own prompt. -/
def Computed (max_tokens : Int) (record : OutputRow) : Prop :=
  ∃ actor, record = rowResult actor max_tokens record.input

theorem call_computed {actor : Worker.Actor} {max_tokens : Int} {batch : List InputRow}
    {outs : List OutputRow} (called : call actor max_tokens batch = .ok outs) :
    ∀ record ∈ outs, Computed max_tokens record := by
  intro record mem
  rw [call_results called] at mem
  obtain ⟨row, -, rfl⟩ := List.mem_map.1 mem
  exact ⟨actor, by rw [rowResult_input]⟩

theorem schedule_computed {rows : List InputRow} {s : Schedule rows} {max_tokens : Int}
    {outs : List OutputRow} (ran : s.output max_tokens = .ok outs) :
    ∀ record ∈ outs, Computed max_tokens record := by
  have block : ∀ (b : Block) (part : List OutputRow), b.output max_tokens = .ok part →
      part.map (·.input) = b.input ∧ ∀ record ∈ part, Computed max_tokens record :=
    fun b part ran => mapM_flatten (l := b) (f := fun c : Call => call c.actor max_tokens c.rows)
      (fun _ _ called => ⟨call_input called, call_computed called⟩) ran
  exact (mapM_flatten block ran).2

/-- What a record of a computed answer holds. -/
theorem Computed.either {max_tokens : Int} {record : OutputRow} (computed : Computed max_tokens record) :
    record.response.isSome = !record.error.isSome := by
  obtain ⟨actor, same⟩ := computed
  rw [same]
  exact (rowResult_either record.input).1

/-- The records of a whole output: one for each prompt, each of them the answer to a row that
Ray read in the input file. -/
structure Answers (rd : RayData) (request : CreateBatchRequest) (records : List OutputRow) : Prop where
  complete : ∃ rows, rd.read_json (inputText (request.input.map (·.model_dump))) = some rows ∧
    (records.map (·.input)).Perm rows
  length : records.length = request.input.length
  computed : ∀ record ∈ records, Computed request.max_tokens record

/-- They are the answers to the prompts of the request, once these were read as they are. -/
theorem Answers.prompts {rd : RayData} {request : CreateBatchRequest} {records : List OutputRow}
    (answers : Answers rd request records) (asText : ReadAsText rd request.input) :
    (records.map (·.input)).Perm (inputRows request.input) := by
  obtain ⟨rows, read, perm⟩ := answers.complete
  exact Option.some.inj (read.symm.trans asText) ▸ perm

theorem Answers.ordered {rd : RayData} {request : CreateBatchRequest} {records : List OutputRow}
    (answers : Answers rd request records) (asText : ReadAsText rd request.input) :
    (records.map (·.input)).mergeSort (fun row later => position row ≤ position later) =
      inputRows request.input := sort_inputRows (answers.prompts asText)

variable {D : Deployment} {A : Assumed} {s s' : State} {writer : ResultWriter}

theorem output_answers (lawful : Lawful writer D.rd) {b : String} {u : Ulid}
    {request : CreateBatchRequest} {dir : Dir} {row : Batch} {counts : Counts}
    (posted : Posted u request b dir row) (output : Output D b row counts dir) :
    ∃ records, dir.file .results = some (writer.file records) ∧ Answers D.rd request records ∧
      counts.completed = completedRows records ∧ counts.failed = failedRows records := by
  obtain ⟨content, whole⟩ := output_whole lawful posted output
  obtain ⟨text, rows, name, input, read, written⟩ := whole.written
  rw [Option.some.inj (input.symm.trans posted.input)] at read
  obtain ⟨schedule, records, executed, rfl⟩ := lawful.writes _ _ _ written
  obtain ⟨answered, refused⟩ := count_records writer records
  refine ⟨records, whole.results, ⟨⟨rows, read, ?_⟩, ?_, ?_⟩, ?_, ?_⟩
  · rw [(schedule_output executed).1]
    exact emitted_perm schedule
  · rw [schedule_length executed]
    exact lawful.rows request.input rows read
  · have computed := schedule_computed executed
    have limit : (planOf rows row.model row.max_tokens).max_tokens = request.max_tokens :=
      congrArg Int.ofNat posted.max_tokens
    rwa [limit] at computed
  · have count := whole.completed_count
    rw [answered] at count
    exact Int.ofNat.inj count
  · have count := whole.failed_count
    rw [refused] at count
    exact Int.ofNat.inj count

/-! ## What a client fetches -/

/-- The job that left this directory has exited. -/
theorem served_later (reachable : Reachable D A s) (later : Later D A s s') {b : String}
    {φ : Dir → Prop} (served : Served D b φ (view s.world b)) : Served D b φ (view s'.world b) := by
  induction later with
  | refl => exact served
  | step before may stepped ih =>
      have safe := reachable_inv (before.reachable reachable)
      rcases view_step safe may stepped b with same | ⟨a, changed⟩
      · rw [same]
        exact ih
      · -- a reader changes nothing, so the change is somebody else's
        have other : Other A (.reader 0) a := by
          refine ⟨?_, fun _ isPoller => by cases isPoller⟩
          rintro rfl
          cases changed
        exact @stable_served D A b (.reader 0) φ a _ _ _ other (safe.world.sound b) changed ih

/-- **key theorem.** From the moment a row is completed its directory does not change any more:
whoever fetches the results, then or at any later time, gets the lines of the same file. -/
theorem results_final (honest : A.honest = true) (reachable : Reachable D A s)
    (later : Later D A s s') {row : Batch} (mem : row ∈ s.world.table)
    (completed : row.status = "completed") :
    s'.world.dirs row.id = s.world.dirs row.id ∧
      ∀ (pid : Nat) (lines : List Text), s'.procs[pid]? = some ⟨.reader row.id, true, .ret lines⟩ →
        ∃ content, (s.world.dirs row.id).file .results = some content ∧
          lines = TextLines.lines content := by
  have safe := reachable_inv reachable
  obtain ⟨row', counts, found, final, -⟩ := served_of_completed (safe.world.sound row.id)
    (safe.world.view_of_mem mem) completed honest
  have here : Served D row.id (fun dir => dir = s.world.dirs row.id) (view s.world row.id) :=
    ⟨row', counts, found, final, rfl⟩
  obtain ⟨-, -, -, -, stays⟩ := served_later reachable later here
  refine ⟨stays, fun pid lines returned => ?_⟩
  have safe' := reachable_inv (later.reachable reachable)
  have kept := safe'.follows pid _ returned rfl
  obtain ⟨_, _, -, -, content, results, same⟩ :=
    Contract.Holds.returned (X := fun _ => Role.fails pid (.reader row.id)) kept safe'.world honest
  exact ⟨content, stays ▸ results, same⟩

/-- The results are fetched while the poller sweeps on, and another batch is posted and runs. -/
def goingOn : List Scene :=
  [.one (.fetch (newBatchId sampleUlid)), .runs 3 50, .one (.resweep 2), .runs 2 100,
    .one (.post hiRequest), .runs 4 300, .one (.start "raysubmit_2"), .runs 5 1000, .one (.exit 5),
    .runs 3 1000]

theorem goingOn_played : ∃ s s' lines row,
    Reachable sampleDeployment .all s ∧ Later sampleDeployment .all s s' ∧
    s.world.table.get (newBatchId sampleUlid) = some row ∧ row.status = "completed" ∧
    row.input_count = 3 ∧
    s'.procs[3]? = some ⟨.reader (newBatchId sampleUlid), true, .ret lines⟩ ∧
    ((s'.world.dirs (newBatchId laterUlid)).file .results).isSome = true := by
  have value : ((play sampleDeployment .all sunny (completionOf mixedRequest) .init).bind fun s =>
      (play sampleDeployment .all sunny goingOn s).bind fun s' =>
        (s'.procs[3]?.bind streamed).map fun p => (p.1,
          (s.world.table.get (newBatchId sampleUlid)).map fun row => (row.status, row.input_count),
          ((s'.world.dirs (newBatchId laterUlid)).file .results).isSome)) =
      some (newBatchId sampleUlid, some ("completed", 3), true) := by decide +kernel
  obtain ⟨s, played, rest⟩ := Option.bind_eq_some_iff.1 value
  obtain ⟨s', played', rest⟩ := Option.bind_eq_some_iff.1 rest
  obtain ⟨⟨b, lines⟩, isStreamed, shown⟩ := Option.map_eq_some_iff.1 rest
  obtain ⟨same, columns⟩ := Prod.mk.inj shown
  obtain ⟨ofRow, other⟩ := Prod.mk.inj columns
  obtain rfl : b = newBatchId sampleUlid := same
  obtain ⟨row, own, values⟩ := Option.map_eq_some_iff.1 ofRow
  obtain ⟨completed, input_count⟩ := Prod.mk.inj values
  obtain ⟨p, found, isStreamed⟩ := Option.bind_eq_some_iff.1 isStreamed
  obtain rfl := streamed_eq isStreamed
  exact ⟨s, s', lines, row, reachable_play .init played, .of_play played', own, completed, input_count,
    found, other⟩

/-- The row is completed before the results are fetched. -/
theorem results_final_fetched : ∃ s s' lines row,
    Reachable sampleDeployment .all s ∧ Later sampleDeployment .all s s' ∧
    row ∈ s.world.table ∧ row.status = "completed" ∧
    s'.procs[3]? = some ⟨.reader row.id, true, .ret lines⟩ ∧
    ((s'.world.dirs (newBatchId laterUlid)).file .results).isSome = true ∧
    s'.world.dirs row.id = s.world.dirs row.id ∧
    ∃ content, (s.world.dirs row.id).file .results = some content ∧ lines = TextLines.lines content := by
  obtain ⟨s, s', lines, row, reachable, later, own, completed, -, found, other⟩ := goingOn_played
  have mem := Table.get_mem own
  rw [← Table.get_id own] at found
  obtain ⟨stays, fetched⟩ := results_final rfl reachable later mem completed
  exact ⟨s, s', lines, row, reachable, later, mem, completed, found, other, stays, fetched 3 lines found⟩

end KubeRayBatch.Client
