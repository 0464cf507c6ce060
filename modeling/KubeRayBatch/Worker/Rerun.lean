/-
# Worker.Rerun -- what one more run of a batch leaves behind

`run_batch` takes over whatever an earlier, crashed run left in the directory:
`_staging` is reused, and the first staged `*.json` file in sorted order is the
one that is promoted.  Nothing is assumed about the directory it starts in, so
every history of earlier runs is covered.

* `rerun_safe_iff`: a normal return has promoted its own file and counted it
  exactly when no file left in `_staging` sorts before it, or the first that does
  has the same content;
* `results_in_order_iff`: a run that promotes its own file leaves one record for each
  prompt; the records are the request's, in its order, exactly when Ray read the prompts as
  they are and the non-empty blocks came out in the order they were cut (or a leftover that
  is promoted instead holds them in order already).
-/
import KubeRayBatch.Worker.JobOutline

namespace KubeRayBatch.Worker

open Theory Cluster Api

set_option autoImplicit false

/-! ## A run that nobody interferes with -/

/-- The contract of a process that runs alone and owes nothing. -/
def solitary : Contract Op World where
  inv := fun _ => True
  rely := fun _ _ => False
  guar := fun _ _ => True
  allowed := fun _ _ => True
  grants := fun _ _ => True

theorem solitary_job (rt : Runtime) (b : String) :
    JobContract rt (fun _ _ => True) (fun _ => True) b solitary fun _ => True where
  stable := fun _ _ _ _ _ moved => moved.elim
  allowed := fun _ _ _ _ _ => trivial
  quiet := fun _ _ _ _ _ => ⟨trivial, trivial, trivial⟩
  move := fun _ _ _ _ _ => ⟨trivial, trivial, trivial⟩
  granted := fun _ _ _ _ _ _ _ _ _ => trivial
  said := fun _ _ _ _ _ => trivial

section Runs

variable {rt : Runtime} {env : Environ} {rd : RayData} {pid : Nat} {b model : String}
variable {max_tokens : Int} {events : List Event} {w w' : World} {counts : Counts}

/-- The staged files a run finds. -/
def leftovers (d : Dir) : List (String × Text) := d.staging.getD []

/-- **A normal return** of `run_batch`, whatever directory it started in. -/
theorem run_batch_returned
    (ran : Program.run (machine rd pid) events (run_batch rt env b model max_tokens) w =
      some (.ret counts, w')) :
    ∃ o, (w.dirs b).file .input = some o.text ∧ Finished rt rd (fun _ _ => True) b model max_tokens
      (leftovers (w.dirs b)) o counts (w'.dirs b) := by
  have outline : DirOutline rd pid b solitary (fun _ => True) (run_batch rt env b model max_tokens)
      (fun d => d.file .input = (w.dirs b).file .input ∧
        d.staging.getD [] = leftovers (w.dirs b)) _ :=
    run_batch_outline (solitary_job rt b)
  have here : Contract.Holds (machine rd pid) solitary
      (run_batch rt env b model max_tokens) _ _ w :=
    ⟨_, fun _ _ _ _ moved => moved.elim, ⟨trivial, rfl, rfl⟩, outline⟩
  exact ((here.run trivial (fun _ _ => trivial) ran).2.returned trivial).2

/-- Where Ray writes one file only, that is the one that was staged. -/
theorem Finished.own {Granted : Dir → Text → Prop} {files : List (String × Text)} {o : Outcome}
    {d : Dir} {name : String} {content : Text}
    (finished : Finished rt rd Granted b model max_tokens files o counts d)
    (only : ∀ n c, rd.may_write (planOf o.rows model max_tokens) n c = true → n = name ∧ c = content) :
    Written rd (planOf o.rows model max_tokens) files name content ∧
      Chosen (files ++ [(name, content)]) o.first o.result := by
  obtain ⟨rfl, rfl⟩ := only _ _ finished.written.allowed
  exact ⟨finished.written, finished.chosen⟩

/-! ## Safe to re-run? -/

/-- What a re-run promises: the results are the file that it wrote itself, the counts
it returns and marks are the tally of that file, and nothing else is left. -/
structure RerunSafe (rt : Runtime) (content : Text) (counts : Counts) (d : Dir) : Prop where
  results : d.file .results = some content
  tallied : tallyOf rt content = .ok (counts.completed, counts.failed)
  marked : ∃ text marker, d.file .success = some text ∧ Json.loads text = some marker ∧
    dictGet marker "completed" .null = .ok (.int counts.completed) ∧
    dictGet marker "failed" .null = .ok (.int counts.failed)
  failed : d.file .failed = none
  staging : d.staging = none

/-- A leftover that sorts before the new file has the new file's content, if it is
the first of them. -/
def OwnFileFirst (files : List (String × Text)) (name : String) (content : Text) : Prop :=
  ∀ first old, Chosen files first old → first ≤ name → old = content

theorem lookup_append_fresh {files : List (String × Text)} {name : String} {content : Text}
    (fresh : name ∉ files.map (·.1)) : (files ++ [(name, content)]).lookup name = some content := by
  have absent : files.lookup name = none := by
    rw [List.lookup_eq_none_iff]
    intro file mem
    have other : name ≠ file.1 := fun same => fresh (same ▸ List.mem_map_of_mem mem)
    simpa using other
  rw [List.lookup_append, absent]
  simp

theorem lookup_append_other {files : List (String × Text)} {name other : String} {content : Text}
    (different : other ≠ name) : (files ++ [(name, content)]).lookup other = files.lookup other := by
  have last : [(name, content)].lookup other = none := by
    rw [List.lookup_eq_none_iff]
    simpa using different
  rw [List.lookup_append, last, Option.or_none]

theorem mem_of_lookup {files : List (String × Text)} {name : String} {content : Text}
    (found : files.lookup name = some content) : name ∈ files.map (·.1) := by
  obtain ⟨before, after, rfl, -⟩ := List.lookup_eq_some_iff.1 found
  simp

theorem chosen_unique {files : List (String × Text)} {first other : String} {result old : Text}
    (chosen : Chosen files first result) (others : Chosen files other old) : old = result := by
  have same : other = first := Std.le_antisymm
    (others.least first (mem_of_lookup chosen.content) chosen.json)
    (chosen.least other (mem_of_lookup others.content) others.json)
  rw [same] at others
  exact Option.some.inj (others.content.symm.trans chosen.content)

/-- The promoted file is the new one, or a leftover that sorts before it. -/
theorem promoted_cases {files : List (String × Text)} {name first : String} {content result : Text}
    (fresh : name ∉ files.map (·.1)) (json : isJson name = true)
    (chosen : Chosen (files ++ [(name, content)]) first result) :
    (result = content ∧ ∀ other old, Chosen files other old → ¬other ≤ name) ∨
      (Chosen files first result ∧ first ≤ name) := by
  by_cases own : first = name
  · subst own
    refine .inl ⟨Option.some.inj (chosen.content.symm.trans (lookup_append_fresh fresh)), ?_⟩
    intro other old ofLeftovers before
    have listed := mem_of_lookup ofLeftovers.content
    have after := chosen.least other (by simp [listed]) ofLeftovers.json
    rw [Std.le_antisymm before after] at listed
    exact fresh listed
  · have content' := chosen.content
    rw [lookup_append_other own] at content'
    exact .inr ⟨⟨chosen.json, fun other mem => chosen.least other (by simp [mem]), content'⟩,
      chosen.least name (by simp) json⟩

/-- The promoted file is the new one exactly when `OwnFileFirst`. -/
theorem promoted_own_iff {files : List (String × Text)} {name first : String} {content result : Text}
    (fresh : name ∉ files.map (·.1)) (json : isJson name = true)
    (chosen : Chosen (files ++ [(name, content)]) first result) :
    result = content ↔ OwnFileFirst files name content := by
  rcases promoted_cases fresh json chosen with ⟨same, none⟩ | ⟨ofLeftovers, before⟩
  · exact iff_of_true same fun other old others earlier => absurd earlier (none other old others)
  · constructor
    · intro same other old others _
      exact (chosen_unique ofLeftovers others).trans same
    · intro ownFirst
      exact ownFirst first result ofLeftovers before

/-- **key theorem.** After a normal return the run's own file was promoted, and
everything is as promised, exactly when no leftover gets in the way. -/
theorem rerun_safe_iff {name : String} {content : Text}
    (only : ∀ plan n c, rd.may_write plan n c = true → n = name ∧ c = content)
    (ran : Program.run (machine rd pid) events (run_batch rt env b model max_tokens) w =
      some (.ret counts, w')) :
    RerunSafe rt content counts (w'.dirs b) ↔ OwnFileFirst (leftovers (w.dirs b)) name content := by
  obtain ⟨o, -, finished⟩ := run_batch_returned ran
  obtain ⟨written, chosen⟩ := finished.own (only _)
  rw [← promoted_own_iff written.fresh written.json chosen]
  constructor
  · intro safe
    exact Option.some.inj (finished.results.symm.trans safe.results)
  · rintro rfl
    have marked : ∃ text marker, (w'.dirs b).file .success = some text ∧
        Json.loads text = some marker ∧
        dictGet marker "completed" .null = .ok (.int counts.completed) ∧
        dictGet marker "failed" .null = .ok (.int counts.failed) :=
      ⟨_, _, finished.success, Json.loads_dumps _, successRecord_completed b model counts _ .null,
        successRecord_failed b model counts _ .null⟩
    exact ⟨finished.results, finished.tallied, marked, finished.failed, finished.staging⟩

/-! ## In input order? -/

/-- Lists with the same members, in the same order of their distinct keys. -/
theorem eq_of_keys {α β : Type} {key : α → β} {l l' : List α} (perm : l.Perm l')
    (nodup : (l'.map key).Nodup) (same : l.map key = l'.map key) : l = l' := by
  refine List.ext_getElem perm.length_eq fun i inL inL' => ?_
  refine List.inj_on_of_nodup_map nodup (perm.subset (List.getElem_mem inL)) (List.getElem_mem inL') ?_
  have here := congrArg (fun keys => keys[i]?) same
  simpa [inL, inL'] using here

section Order

variable {input : List BatchInputItem} {rows : List InputRow}

/-- The rows come out as those of the request exactly when they were read as such, and the
blocks come out in order. -/
theorem emitted_request_iff (s : Schedule rows)
    (ids : rows.map (·.id) = (inputRows input).map (·.id)) :
    s.emitted.flatMap Block.input = inputRows input ↔
      rows = inputRows input ∧ nonemptyInputs s.emitted = nonemptyInputs s.blocks := by
  have distinct : (rows.map (·.id)).Nodup := by
    rw [ids, inputRows_ids]
    exact (List.nodup_range' 1).map toString_injective
  have inOrder := emitted_input_eq_iff s (List.Nodup.of_map _ distinct)
  constructor
  · intro emitted
    have read : s.emitted.flatMap Block.input = rows :=
      eq_of_keys (emitted_perm s) distinct (by rw [emitted, ids])
    exact ⟨read.symm.trans emitted, inOrder.1 read⟩
  · rintro ⟨asText, order⟩
    exact (inOrder.2 order).trans asText

/-- When the results come back in the order of the request. -/
inductive InOrder (rd : RayData) (input : List BatchInputItem) (files : List (String × Text))
    (name : String) (s : Schedule rows) : Prop where
  /-- No leftover sorts before the run's own file, the prompts were read as they are, and
  the blocks came out as they were cut. -/
  | own (first : ∀ leftover old, Chosen files leftover old → ¬leftover ≤ name)
      (asText : ReadAsText rd input) (order : nonemptyInputs s.emitted = nonemptyInputs s.blocks)
  /-- The leftover that sorts before it holds the records in order already. -/
  | leftover {leftover : String} {old : Text} (chosen : Chosen files leftover old)
      (before : leftover ≤ name) (ordered : resultRows old = some (inputRows input))

/-- **What is promoted** is in the order of the request exactly then. -/
theorem inOrder_iff {s : Schedule rows} {files : List (String × Text)} {name first : String}
    {content result : Text} (read : rd.read_json (inputText (input.map (·.model_dump))) = some rows)
    (ids : rows.map (·.id) = (inputRows input).map (·.id))
    (emitted : resultRows content = some (s.emitted.flatMap Block.input))
    (fresh : name ∉ files.map (·.1)) (json : isJson name = true)
    (chosen : Chosen (files ++ [(name, content)]) first result) :
    resultRows result = some (inputRows input) ↔ InOrder rd input files name s := by
  have asText : ReadAsText rd input ↔ rows = inputRows input := by
    rw [ReadAsText, read, Option.some.injEq]
  rcases promoted_cases fresh json chosen with ⟨rfl, none⟩ | ⟨ofLeftovers, before⟩
  · rw [emitted, Option.some.injEq, emitted_request_iff s ids, ← asText]
    constructor
    · rintro ⟨text, order⟩
      exact .own none text order
    · intro inOrder
      cases inOrder with
      | own _ text order => exact ⟨text, order⟩
      | leftover chosen before ordered => exact absurd before (none _ _ chosen)
  · constructor
    · exact fun ordered => .leftover ofLeftovers before ordered
    · intro inOrder
      cases inOrder with
      | own none text order => exact absurd before (none _ _ ofLeftovers)
      | leftover chosen before ordered => exact chosen_unique ofLeftovers chosen ▸ ordered

end Order

/-- **key theorem.** Whatever blocks Ray cut and in whatever order they came out, a run that
promotes its own file leaves one record for each prompt.  The records are those of the
request, in its order, exactly when `InOrder`. -/
theorem results_in_order_iff {writer : ResultWriter} {request : CreateBatchRequest}
    {rows : List InputRow} {s : Schedule rows} {outs : List OutputRow} {name : String}
    (prompts : (w.dirs b).file .input = some (inputText (request.input.map (·.model_dump))))
    (read : rd.read_json (inputText (request.input.map (·.model_dump))) = some rows)
    (ids : rows.map (·.id) = (inputRows request.input).map (·.id))
    (output : s.output max_tokens = .ok outs)
    (only : ∀ n c, rd.may_write (planOf rows model max_tokens) n c = true →
      n = name ∧ c = writer.file outs)
    (ran : Program.run (machine rd pid) events (run_batch rt env b model max_tokens) w =
      some (.ret counts, w')) :
    ∃ content, (w'.dirs b).file .results = some content ∧ counts.total = request.input.length ∧
      (resultRows content = some (inputRows request.input) ↔
        InOrder rd request.input (leftovers (w.dirs b)) name s) ∧
      ((∀ leftover old, Chosen (leftovers (w.dirs b)) leftover old → ¬leftover ≤ name) →
        ∃ records, resultRows content = some records ∧ records.length = request.input.length) := by
  obtain ⟨o, input, finished⟩ := run_batch_returned ran
  have same : o.rows = rows := by
    have ownRead := finished.read
    rw [← Option.some.inj (prompts.symm.trans input), read] at ownRead
    exact (Option.some.inj ownRead).symm
  have length : rows.length = request.input.length := by
    have keys := congrArg List.length ids
    rwa [List.length_map, List.length_map, length_inputRows] at keys
  obtain ⟨written, chosen⟩ := finished.own (same ▸ only)
  have emitted := resultRows_file writer outs
  rw [(schedule_output output).1] at emitted
  refine ⟨o.result, finished.results, by rw [finished.total, same, length],
    inOrder_iff read ids emitted written.fresh written.json chosen, fun none => ?_⟩
  have own : o.result = writer.file outs := (promoted_own_iff written.fresh written.json chosen).2
    fun other old others before => absurd before (none other old others)
  exact ⟨_, own ▸ emitted, by rw [(emitted_perm s).length_eq, length]⟩

/-- The worlds that a sequence of earlier runs can leave: each of them returned,
raised or was killed somewhere on its way. -/
inductive Attempted (rt : Runtime) (env : Environ) (rd : RayData) (b : String) (w₀ : World) :
    World → Prop where
  | none : Attempted rt env rd b w₀ w₀
  | again {w w' : World} {pid : Nat} {model : String} {max_tokens : Int} {events : List Event}
      {p : Proc Counts} (before : Attempted rt env rd b w₀ w)
      (ran : Program.run (machine rd pid) events (run_batch rt env b model max_tokens) w =
        some (p, w')) : Attempted rt env rd b w₀ w'

end Runs

/-! ## Concrete runs -/

/-- A Ray that reads the given rows and writes one given file. -/
def rayWriting (rows : List InputRow) (name : String) (content : Text) : RayData where
  read_json := fun _ => some rows
  may_write := fun _ n c => n == name && c == content

theorem reads_sampleTime : Json.number "1.5".toList = some (.float "1.5".toList, []) := rfl

def sampleTime : Json.Float := ⟨"1.5".toList, reads_sampleTime⟩

/-- Everything succeeds, and Ray writes the given file. -/
def smooth (name : String) (content : Text) : (op : Op) → World → Event
  | .dir _ (.execute _), _ => ⟨.done, .dataset name content⟩
  | .dir b .glob_staging, w => ⟨.done, .names (stagedNames (w.dirs b))⟩
  | .time, _ => ⟨.done, .seconds sampleTime⟩
  | _, _ => ⟨.done, .go⟩

def sampleEnv : Environ := ⟨"/data/batches", "Qwen/Qwen2.5-0.5B-Instruct"⟩

/-- A world with one batch directory, as the API leaves it. -/
def submitted (b : String) (input : List BatchInputItem) : World :=
  World.init.setDir b
    ⟨true, fun f => if f = .input then some (inputText (input.map (·.model_dump))) else none, none⟩

def okLine : Text := "\x7b\"error\": null\x7d\n".toList

theorem rayWriting_only (rows : List InputRow) (name : String) (content : Text) :
    ∀ plan n c, (rayWriting rows name content).may_write plan n c = true →
      n = name ∧ c = content := by
  intro plan n c written
  simpa [rayWriting] using written

theorem smooth_run (rows : List InputRow) (content : Text) (w : World) (c : Counts)
    (returns : (Program.perform (machine (rayWriting rows "b.json" content) 0)
      (smooth "b.json" content) (run_batch .ascii sampleEnv "batch_1" "m" 16) w).bind
        (fun result => result.1.toOption) = some c) :
    ∃ events w', Program.run (machine (rayWriting rows "b.json" content) 0) events
      (run_batch .ascii sampleEnv "batch_1" "m" 16) w = some (.ret c, w') := by
  obtain ⟨w', performed⟩ := Program.perform_returned _ _ returns
  obtain ⟨events, ran⟩ := Program.run_of_perform _ _ performed
  exact ⟨events, w', ran⟩

/-- A run killed right after Ray created its file. -/
def killedEvents (name : String) : List Event :=
  List.replicate 8 ⟨.done, .go⟩ ++ [⟨.done, .dataset name []⟩, ⟨.done, .go⟩]

theorem own_first_later : OwnFileFirst [("c.json", [])] "b.json" okLine := by
  intro first old chosen before
  have listed := mem_of_lookup chosen.content
  rw [List.map_singleton, List.mem_singleton] at listed
  rw [listed] at before
  exact absurd before (by decide)

/-- The file of a killed run sorts after the new one, and goes with the staging directory. -/
theorem rerun_safe_over_killed : ∃ killed events w' counts,
    Attempted .ascii sampleEnv (rayWriting (inputRows [hi]) "c.json" []) "batch_1"
      (submitted "batch_1" [hi]) killed ∧
    leftovers (killed.dirs "batch_1") = [("c.json", [])] ∧
    Program.run (machine (rayWriting (inputRows [hi]) "b.json" okLine) 0) events
      (run_batch .ascii sampleEnv "batch_1" "m" 16) killed = some (.ret counts, w') ∧
    RerunSafe .ascii okLine counts (w'.dirs "batch_1") := by
  have value : ((Program.run (machine (rayWriting (inputRows [hi]) "c.json" []) 0)
      (killedEvents "c.json") (run_batch .ascii sampleEnv "batch_1" "m" 16)
      (submitted "batch_1" [hi])).bind fun killed =>
      ((Program.perform (machine (rayWriting (inputRows [hi]) "b.json" okLine) 0)
        (smooth "b.json" okLine) (run_batch .ascii sampleEnv "batch_1" "m" 16) killed.2).bind
          fun result => result.1.toOption).map fun counts =>
            (counts, leftovers (killed.2.dirs "batch_1"))) = some (⟨1, 1, 0⟩, [("c.json", [])]) := by
    decide +kernel
  obtain ⟨⟨p, killed⟩, ranFirst, rest⟩ := Option.bind_eq_some_iff.1 value
  obtain ⟨counts, returns, shown⟩ := Option.map_eq_some_iff.1 rest
  have left := (Prod.mk.inj shown).2
  obtain ⟨events, w', ran⟩ := smooth_run _ _ _ _ returns
  refine ⟨killed, events, w', counts, .again .none ranFirst, left, ran, ?_⟩
  refine (rerun_safe_iff (rayWriting_only _ "b.json" okLine) ran).2 ?_
  rw [left]
  exact own_first_later

/-- The empty file of a killed run is promoted instead of the new one. -/
theorem leftover_promoted :
    ¬ ∀ (rt : Runtime) (env : Environ) (earlier rd : RayData) (pid : Nat) (b model : String)
      (max_tokens : Int) (w₀ w w' : World) (events : List Event) (counts : Counts) (name : String)
      (content : Text), (w₀.dirs b).staging = none → Attempted rt env earlier b w₀ w →
      (∀ plan n c, rd.may_write plan n c = true → n = name ∧ c = content) →
      Program.run (machine rd pid) events (run_batch rt env b model max_tokens) w =
        some (.ret counts, w') → RerunSafe rt content counts (w'.dirs b) := by
  intro safe
  have earlier : ((Program.run (machine (rayWriting (inputRows [hi]) "a.json" []) 0) (killedEvents "a.json")
      (run_batch .ascii sampleEnv "batch_1" "m" 16) (submitted "batch_1" [hi])).bind fun killed =>
      (Program.perform (machine (rayWriting (inputRows [hi]) "b.json" okLine) 0)
        (smooth "b.json" okLine) (run_batch .ascii sampleEnv "batch_1" "m" 16) killed.2).bind
          fun result => result.1.toOption) = some ⟨1, 0, 0⟩ := by decide +kernel
  obtain ⟨⟨p, w⟩, killed, returns⟩ := Option.bind_eq_some_iff.1 earlier
  obtain ⟨events, w', ran⟩ := smooth_run _ _ _ _ returns
  have promise := safe .ascii sampleEnv _ _ 0 "batch_1" "m" 16 (submitted "batch_1" [hi]) w w' events
    _ "b.json" okLine rfl (.again .none killed) (rayWriting_only _ "b.json" okLine) ran
  have own := promise.tallied
  revert own
  decide

/-! ### Two prompts in two blocks -/

/-- An actor that answers every prompt with the same text. -/
def constantActor : Actor where
  apply_chat_template := .ok
  encode := fun _ => .ok [1, 2]
  generate := fun ids _ => .ok (ids ++ [0])
  decode := fun _ => .ok "ok"
  eos_token_id := 0

def twoPrompts : CreateBatchRequest :=
  { hiRequest with
    input := [hi, hi]
    input_min_length := by decide
    input_max_length := by decide }

def blockOf (id : String) : Block := [⟨constantActor, [⟨id, "hi"⟩]⟩]

/-- The second block comes out first. -/
def swapped : Schedule (inputRows twoPrompts.input) where
  blocks := [blockOf "0", blockOf "1"]
  covers := by decide
  emitted := [blockOf "1", blockOf "0"]
  perm := List.Perm.swap _ _ _

/-- The row that the actor gives. -/
def answered (id : String) : OutputRow := ⟨id, "hi", some "ok", some "stop", 2, 1, none⟩

theorem swapped_output : swapped.output 16 = .ok [answered "1", answered "0"] := by decide

/-- The two records, the second prompt's first. -/
def swappedFile : Text := dumpsWriter.file [answered "1", answered "0"]

theorem swapped_run : ∃ events w',
    Program.run (machine (rayWriting (inputRows twoPrompts.input) "b.json" swappedFile) 0) events
      (run_batch .ascii sampleEnv "batch_1" "m" 16) (submitted "batch_1" twoPrompts.input) =
        some (.ret ⟨2, 2, 0⟩, w') ∧ (w'.dirs "batch_1").file .results = some swappedFile := by
  have value : ((Program.perform (machine (rayWriting (inputRows twoPrompts.input) "b.json" swappedFile) 0)
      (smooth "b.json" swappedFile) (run_batch .ascii sampleEnv "batch_1" "m" 16)
      (submitted "batch_1" twoPrompts.input)).map fun result =>
        (result.1.toOption, (result.2.dirs "batch_1").file .results)) =
      some (some ⟨2, 2, 0⟩, some swappedFile) := by decide +kernel
  obtain ⟨⟨result, w'⟩, performed, shown⟩ := Option.map_eq_some_iff.1 value
  obtain ⟨returned, results⟩ := Prod.mk.inj shown
  obtain ⟨events, ran⟩ := Program.run_of_perform _ _ performed
  cases result with
  | error exc => cases returned
  | ok counts =>
      cases returned
      exact ⟨events, w', ran, results⟩

/-- Two blocks that are swapped: two records, and not in order. -/
theorem swapped_order : ∃ (w' : World) (content : Text) (records : List InputRow),
    (w'.dirs "batch_1").file .results = some content ∧ resultRows content = some records ∧
      records.length = 2 ∧ (resultRows content = some (inputRows twoPrompts.input) ↔
        InOrder (rayWriting (inputRows twoPrompts.input) "b.json" swappedFile) twoPrompts.input []
          "b.json" swapped) := by
  obtain ⟨events, w', ran, -⟩ := swapped_run
  obtain ⟨content, results, -, order, all⟩ :=
    results_in_order_iff (by decide +kernel) rfl rfl swapped_output (rayWriting_only _ _ _ _) ran
  obtain ⟨records, read, length⟩ := all fun leftover old chosen => by cases chosen.content
  exact ⟨w', content, records, results, read, length, order⟩

/-- Both prompts are answered, the second one first. -/
theorem results_out_of_order :
    ¬ ∀ (rt : Runtime) (env : Environ) (rd : RayData) (pid : Nat) (b model : String)
      (max_tokens : Int) (events : List Event) (w w' : World) (counts : Counts)
      (writer : ResultWriter) (request : CreateBatchRequest) (s : Schedule (inputRows request.input))
      (outs : List OutputRow),
      (w.dirs b).file .input = some (inputText (request.input.map (·.model_dump))) →
      leftovers (w.dirs b) = [] → ReadAsText rd request.input →
      s.output max_tokens = .ok outs →
      (∀ plan n c, rd.may_write plan n c = true → c = writer.file outs) →
      Program.run (machine rd pid) events (run_batch rt env b model max_tokens) w =
        some (.ret counts, w') →
      ∃ content, (w'.dirs b).file .results = some content ∧
        resultRows content = some (inputRows request.input) := by
  intro ordered
  obtain ⟨events, w', ran, swappedResults⟩ := swapped_run
  obtain ⟨content, results, read⟩ := ordered .ascii sampleEnv
    (rayWriting (inputRows twoPrompts.input) "b.json" swappedFile) 0 "batch_1" "m" 16 events
    (submitted "batch_1" twoPrompts.input) w' _ dumpsWriter twoPrompts swapped _
    (by decide +kernel) rfl rfl swapped_output
    (fun plan n c written => (rayWriting_only _ _ _ plan n c written).2) ran
  rw [← Option.some.inj (swappedResults.symm.trans results), swappedFile, resultRows_file] at read
  exact absurd read (by decide)

end KubeRayBatch.Worker
