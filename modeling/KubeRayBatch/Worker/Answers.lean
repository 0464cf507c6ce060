/-
# Worker.Answers -- every prompt is answered by itself

`rowResult` is what one prompt gives on its own.  The loop of `QwenPredictor.__call__`
fills its preallocated columns entry by entry: after some rows they hold the results of
these rows, and blanks for the rest (`processRows_prefix`).  So a call is a `map`, and
the cut of a dataset into calls cannot be seen in what comes out.

* `call_map`: a call gives the result of each of its rows, and so does every call that
  returns (`call_results`);
* `rows_isolated`: whatever the cut, the results are those of the rows, and the tally of
  the file counts the prompts that raised and those that did not.
-/
import KubeRayBatch.Worker.Pipeline

namespace KubeRayBatch.Worker

open Theory Cluster Api

set_option autoImplicit false

/-! ## One prompt on its own -/

section Row

variable (actor : Actor) (max_tokens : Int)

/-- The token counts that a prompt leaves, and its response and finish reason. -/
def respond (prompt : String) : Nat × Nat × Except PyException (String × String) :=
  match actor.apply_chat_template prompt with
  | .error exc => (0, 0, .error exc)
  | .ok text =>
    match actor.encode text with
    | .error exc => (0, 0, .error exc)
    | .ok ids =>
      let input_ids := ids.take 2048
      match actor.generate input_ids max_tokens with
      | .error exc => (input_ids.length, 0, .error exc)
      | .ok output =>
        let generated_ids := output.drop input_ids.length
        match actor.decode generated_ids with
        | .error exc => (input_ids.length, generated_ids.length, .error exc)
        | .ok decoded =>
          (input_ids.length, generated_ids.length,
            .ok (strip decoded,
              if generated_ids.getLast?.getD (-1) = actor.eos_token_id then "stop" else "length"))

/-- The exception that a prompt raises. -/
def raised (prompt : String) : Option PyException :=
  match (respond actor max_tokens prompt).2.2 with
  | .ok _ => none
  | .error exc => some exc

def rowResult (row : InputRow) : OutputRow :=
  match respond actor max_tokens row.prompt with
  | (prompt_tokens, completion_tokens, .ok (response, finish_reason)) =>
      ⟨row.id, row.prompt, some response, some finish_reason, prompt_tokens, completion_tokens, none⟩
  | (prompt_tokens, completion_tokens, .error exc) =>
      ⟨row.id, row.prompt, none, none, prompt_tokens, completion_tokens, some (errorText exc)⟩

variable {actor max_tokens}

theorem rowResult_input (row : InputRow) : (rowResult actor max_tokens row).input = row := by
  unfold rowResult
  split <;> rfl

/-- Exactly one of response and error is there, and the finish reason goes with the response. -/
theorem rowResult_either (row : InputRow) :
    (rowResult actor max_tokens row).response.isSome = !(rowResult actor max_tokens row).error.isSome ∧
      (rowResult actor max_tokens row).finish_reason.isSome =
        (rowResult actor max_tokens row).response.isSome := by
  unfold rowResult
  split <;> exact ⟨rfl, rfl⟩

/-- The error is there exactly when the prompt raised. -/
theorem rowResult_error (row : InputRow) :
    (rowResult actor max_tokens row).error = (raised actor max_tokens row.prompt).map errorText := by
  unfold rowResult raised
  split <;> rename_i same <;> rw [same] <;> rfl

theorem rowResult_explained (row : InputRow) : (rowResult actor max_tokens row).error ≠ some "" := by
  rw [rowResult_error]
  intro empty
  obtain ⟨exc, -, isEmpty⟩ := Option.map_eq_some_iff.1 empty
  exact errorText_ne_empty exc isEmpty

end Row

/-! ## The loop fills the columns -/

/-- The columns of rows that are done, with blanks for those to come. -/
def Columns.partly (done : List OutputRow) (rest : Nat) : Columns where
  response := done.map (·.response) ++ List.replicate rest none
  finish_reason := done.map (·.finish_reason) ++ List.replicate rest none
  prompt_tokens := done.map (·.prompt_tokens) ++ List.replicate rest 0
  completion_tokens := done.map (·.completion_tokens) ++ List.replicate rest 0
  error := done.map (·.error) ++ List.replicate rest none

/-- The first blank entry of a column is the next one to be written. -/
theorem next_blank {α β : Type} (done : List α) (f : α → β) (blank : β) (rest : Nat) :
    done.map f ++ List.replicate (rest + 1) blank =
      done.map f ++ blank :: List.replicate rest blank := by
  rw [List.replicate_succ]

section Loop

variable {actor : Actor} {max_tokens : Int}

theorem processRow_partly (done : List OutputRow) (rest : Nat) (row : InputRow)
    (isolated : ∀ exc, raised actor max_tokens row.prompt = some exc →
      exc.isinstance .exception = true) :
    processRow actor max_tokens done.length row.prompt (.partly done (rest + 1)) =
      .ok (.partly (done ++ [rowResult actor max_tokens row]) rest) := by
  unfold raised at isolated
  unfold processRow attempt rowResult
  unfold respond at isolated ⊢
  cases template : actor.apply_chat_template row.prompt with
  | error exc =>
      simp only [template] at isolated ⊢
      simp [isolated exc rfl, Columns.partly, next_blank]
  | ok text =>
      cases encoded : actor.encode text with
      | error exc =>
          simp only [template, encoded] at isolated ⊢
          simp [isolated exc rfl, Columns.partly, next_blank]
      | ok ids =>
          cases generated : actor.generate (ids.take 2048) max_tokens with
          | error exc =>
              simp only [template, encoded, generated] at isolated ⊢
              simp [isolated exc rfl, Columns.partly, next_blank]
          | ok output =>
              cases decoded : actor.decode (output.drop (ids.take 2048).length) with
              | error exc =>
                  simp only [template, encoded, generated, decoded] at isolated ⊢
                  simp [isolated exc rfl, Columns.partly, next_blank]
              | ok response =>
                  simp only [encoded, generated, decoded]
                  simp [Columns.partly, next_blank]

/-- **Loop lemma**: the columns hold the results of the rows that are done. -/
theorem processRows_prefix (rows : List InputRow) (done : List OutputRow)
    (isolated : ∀ row ∈ rows, ∀ exc, raised actor max_tokens row.prompt = some exc →
      exc.isinstance .exception = true) :
    processRows actor max_tokens done.length rows (.partly done rows.length) =
      .ok (.partly (done ++ rows.map (rowResult actor max_tokens)) 0) := by
  induction rows generalizing done with
  | nil => simp [processRows]
  | cons row rows ih =>
      have first := processRow_partly done rows.length row (isolated row List.mem_cons_self)
      have rest := ih (done ++ [rowResult actor max_tokens row]) fun later mem =>
        isolated later (List.mem_cons_of_mem row mem)
      rw [List.length_append, List.length_singleton] at rest
      simp only [processRows, List.length_cons, first, rest]
      simp

/-- The columns of a call all have one entry for each of its rows. -/
structure Columns.Rectangular (cols : Columns) (n : Nat) : Prop where
  response : cols.response.length = n
  finish_reason : cols.finish_reason.length = n
  prompt_tokens : cols.prompt_tokens.length = n
  completion_tokens : cols.completion_tokens.length = n
  error : cols.error.length = n

theorem partly_rectangular (done : List OutputRow) (rest : Nat) :
    (Columns.partly done rest).Rectangular (done.length + rest) :=
  ⟨by simp [Columns.partly], by simp [Columns.partly], by simp [Columns.partly],
    by simp [Columns.partly], by simp [Columns.partly]⟩

/-- The rows of complete columns are the results they were filled with. -/
theorem partly_rows (batch : List InputRow) :
    (Columns.partly (batch.map (rowResult actor max_tokens)) 0).rows batch =
      batch.map (rowResult actor max_tokens) := by
  refine List.ext_getElem (by simp [Columns.rows]) fun i left right => ?_
  have bound : i < batch.length := by simpa using right
  have input : (rowResult actor max_tokens batch[i]).input = batch[i] := rowResult_input batch[i]
  have id : batch[i].id = (rowResult actor max_tokens batch[i]).id := congrArg InputRow.id input.symm
  have prompt : batch[i].prompt = (rowResult actor max_tokens batch[i]).prompt :=
    congrArg InputRow.prompt input.symm
  simp only [Columns.rows, Columns.partly, List.replicate_zero, List.append_nil, List.getElem_map,
    List.getElem_zipIdx, List.getElem?_map, Nat.zero_add, List.getElem?_eq_getElem bound,
    Option.map_some, Option.getD_some]
  rw [id, prompt]

/-- **A call is a map**: it gives the result of each of its rows. -/
theorem call_map {batch : List InputRow} (isolated : ∀ row ∈ batch, ∀ exc,
      raised actor max_tokens row.prompt = some exc → exc.isinstance .exception = true) :
    ∃ cols, processRows actor max_tokens 0 batch (.blank batch.length) = .ok cols ∧
      cols.Rectangular batch.length ∧
      call actor max_tokens batch = .ok (cols.rows batch) ∧
      cols.rows batch = batch.map (rowResult actor max_tokens) := by
  have looped := processRows_prefix batch [] isolated
  rw [List.nil_append] at looped
  refine ⟨_, looped, ?_, ?_, partly_rows batch⟩
  · simpa using partly_rectangular (batch.map (rowResult actor max_tokens)) 0
  · have called : processRows actor max_tokens 0 batch (.blank batch.length) =
        .ok (.partly (batch.map (rowResult actor max_tokens)) 0) := looped
    unfold call
    rw [called]
    rfl

/-- The body of the `try` raises what the prompt raises. -/
theorem attempt_raised (idx : Nat) (prompt : String) (cols : Columns) {exc : PyException}
    (raises : raised actor max_tokens prompt = some exc) :
    (attempt actor max_tokens idx prompt cols).2 = .error exc := by
  unfold raised respond at raises
  unfold attempt
  cases template : actor.apply_chat_template prompt with
  | error e =>
      simp only [template, Option.some.injEq] at raises ⊢
      rw [raises]
  | ok text =>
      cases encoded : actor.encode text with
      | error e =>
          simp only [template, encoded, Option.some.injEq] at raises ⊢
          rw [raises]
      | ok ids =>
          cases generated : actor.generate (ids.take 2048) max_tokens with
          | error e =>
              simp only [template, encoded, generated, Option.some.injEq] at raises ⊢
              rw [raises]
          | ok output =>
              cases decoded : actor.decode (output.drop (ids.take 2048).length) with
              | error e =>
                  simp only [template, encoded, generated, decoded, Option.some.injEq] at raises ⊢
                  rw [raises]
              | ok response =>
                  simp only [template, encoded, generated, decoded] at raises
                  cases raises

/-- A loop that returns has let no exception through. -/
theorem processRows_isolated {idx : Nat} {rows : List InputRow} {cols cols' : Columns}
    (processed : processRows actor max_tokens idx rows cols = .ok cols') :
    ∀ row ∈ rows, ∀ exc, raised actor max_tokens row.prompt = some exc →
      exc.isinstance .exception = true := by
  induction rows generalizing idx cols with
  | nil =>
      intro row mem
      cases mem
  | cons head rows ih =>
      simp only [processRows] at processed
      split at processed
      · rename_i after rowDone
        intro row mem exc raises
        rcases List.mem_cons.1 mem with rfl | later
        · have attempted := attempt_raised idx row.prompt cols raises
          unfold processRow at rowDone
          cases result : attempt actor max_tokens idx row.prompt cols with
          | mk cols'' ended =>
              rw [result] at attempted
              obtain rfl : ended = .error exc := attempted
              simp only [result] at rowDone
              by_contra escapes
              rw [if_neg escapes] at rowDone
              cases rowDone
        · exact ih processed row later exc raises
      · cases processed

/-- **A call that returns** gives the result of each of its rows. -/
theorem call_results {batch : List InputRow} {outs : List OutputRow}
    (called : call actor max_tokens batch = .ok outs) :
    outs = batch.map (rowResult actor max_tokens) := by
  cases looped : processRows actor max_tokens 0 batch (.blank batch.length) with
  | error exc =>
      unfold call at called
      rw [looped] at called
      cases called
  | ok cols =>
      obtain ⟨cols', -, -, called', isMap⟩ := call_map (processRows_isolated looped)
      exact (Except.ok.inj (called.symm.trans called')).trans isMap

end Loop

/-! ## Any cut into calls -/

section Cut

variable {actor : Actor} {max_tokens : Int} {rows : List InputRow}

theorem calls_map {batches : List (List InputRow)} (isolated : ∀ row ∈ batches.flatten, ∀ exc,
      raised actor max_tokens row.prompt = some exc → exc.isinstance .exception = true) :
    batches.mapM (call actor max_tokens) =
      .ok (batches.map fun batch => batch.map (rowResult actor max_tokens)) := by
  induction batches with
  | nil => rfl
  | cons batch batches ih =>
      obtain ⟨cols, -, -, called, isMap⟩ := call_map fun row mem =>
        isolated row (List.mem_flatten_of_mem List.mem_cons_self mem)
      have rest := ih fun row mem => isolated row (by simp [List.mem_flatten.1 mem])
      rw [List.mapM_cons, called, rest, isMap]
      rfl

/-- The rows that were answered, and those that raised. -/
theorem counted {outs : List OutputRow} (perm : outs.Perm (rows.map (rowResult actor max_tokens))) :
    completedRows outs = rows.countP (fun row => (raised actor max_tokens row.prompt).isNone) ∧
      failedRows outs = rows.countP (fun row => (raised actor max_tokens row.prompt).isSome) := by
  unfold completedRows failedRows
  rw [perm.countP_eq, perm.countP_eq, List.countP_map, List.countP_map]
  constructor <;> refine List.countP_congr fun row _ => ?_ <;>
    simp [rowResult_error]

/-- **key theorem.** Whatever the cut of the rows into calls and the order of the calls,
every call returns full columns, the rows that come out are a permutation of the results
of the single rows, and the tally of the file they make counts the prompts that raised and
those that did not. -/
theorem rows_isolated (writer : ResultWriter) (rt : Runtime) (batches : List (List InputRow))
    (cut : batches.flatten.Perm rows) (isolated : ∀ row ∈ rows, ∀ exc,
      raised actor max_tokens row.prompt = some exc → exc.isinstance .exception = true) :
    (∀ batch ∈ batches, ∃ cols, processRows actor max_tokens 0 batch (.blank batch.length) = .ok cols ∧
        cols.Rectangular batch.length ∧ call actor max_tokens batch = .ok (cols.rows batch)) ∧
      ∃ outs, batches.mapM (call actor max_tokens) = .ok outs ∧
        outs.flatten.Perm (rows.map (rowResult actor max_tokens)) ∧
        (outs.flatten.map (·.input)).Perm rows ∧
        (∀ out ∈ outs.flatten, out.response.isSome = !out.error.isSome ∧
          out.finish_reason.isSome = out.response.isSome) ∧
        tallyOf rt (writer.file outs.flatten) =
          .ok (rows.countP (fun row => (raised actor max_tokens row.prompt).isNone),
            rows.countP (fun row => (raised actor max_tokens row.prompt).isSome)) ∧
        rows.countP (fun row => (raised actor max_tokens row.prompt).isNone) +
          rows.countP (fun row => (raised actor max_tokens row.prompt).isSome) = rows.length := by
  have isolated' : ∀ row ∈ batches.flatten, ∀ exc, raised actor max_tokens row.prompt = some exc →
      exc.isinstance .exception = true := fun row mem => isolated row (cut.subset mem)
  refine ⟨fun batch mem => ?_, _, calls_map isolated', ?_⟩
  · obtain ⟨cols, looped, rectangular, called, -⟩ := call_map fun row inBatch =>
      isolated' row (List.mem_flatten_of_mem mem inBatch)
    exact ⟨cols, looped, rectangular, called⟩
  have flat : (batches.map fun batch => batch.map (rowResult actor max_tokens)).flatten =
      batches.flatten.map (rowResult actor max_tokens) := List.map_flatten.symm
  have perm := cut.map (rowResult actor max_tokens)
  rw [flat]
  have results : ∀ out ∈ batches.flatten.map (rowResult actor max_tokens),
      ∃ row, rowResult actor max_tokens row = out := fun out mem =>
    let ⟨row, _, same⟩ := List.mem_map.1 mem
    ⟨row, same⟩
  obtain ⟨answered, failed⟩ := counted perm
  refine ⟨perm, ?_, ?_, ?_, ?_⟩
  · have inputs : (batches.flatten.map (rowResult actor max_tokens)).map (·.input) = batches.flatten := by
      rw [List.map_map]
      exact (List.map_congr_left fun row _ => rowResult_input row).trans (List.map_id _)
    rw [inputs]
    exact cut
  · intro out mem
    obtain ⟨row, rfl⟩ := results out mem
    exact rowResult_either row
  · rw [tally_file writer rt _ fun out mem => ?_, answered, failed]
    obtain ⟨row, rfl⟩ := results out mem
    exact rowResult_explained row
  · rw [← answered, ← failed, completed_add_failed, List.length_map, cut.length_eq]

end Cut

/-- An actor whose tokenizer does not take the empty answer for an answer. -/
def pickyActor : Actor where
  apply_chat_template := fun prompt =>
    if prompt = "?" then .error (.valueError "no question") else .ok prompt
  encode := fun _ => .ok [1, 2]
  generate := fun ids _ => .ok (ids ++ [0])
  decode := fun _ => .ok "ok"
  eos_token_id := 0

theorem picky_isolated (max_tokens : Int) (prompt : String) (exc : PyException)
    (raises : raised pickyActor max_tokens prompt = some exc) : exc.isinstance .exception = true := by
  by_cases question : prompt = "?"
  · simp only [raised, respond, pickyActor, question, if_true, Option.some.injEq] at raises
    subst raises
    decide
  · simp [raised, respond, pickyActor, question] at raises

/-- Two prompts in two calls, in the other order; the second prompt raises. -/
theorem rows_isolated_two : ∃ outs, [[⟨"1", "?"⟩], [⟨"0", "hi"⟩]].mapM (call pickyActor 16) = .ok outs ∧
    tallyOf .ascii (dumpsWriter.file outs.flatten) = .ok (1, 1) := by
  have cut : [[⟨"1", "?"⟩], [⟨"0", "hi"⟩]].flatten.Perm ([⟨"0", "hi"⟩, ⟨"1", "?"⟩] : List InputRow) :=
    List.Perm.swap _ _ _
  obtain ⟨-, outs, called, -, -, -, tallied, -⟩ := rows_isolated dumpsWriter .ascii
    [[⟨"1", "?"⟩], [⟨"0", "hi"⟩]] cut fun row _ => picky_isolated 16 row.prompt
  exact ⟨outs, called, tallied⟩

/-! ## A Ray Data that does what is assumed -/

/-- Read the records back, and answer the rows of a plan from the first or from the last on. -/
def rayAnswering (actor : Actor) : RayData where
  read_json := fun text => (TextLines.lines text).mapM resultRow
  may_write := fun plan _ content =>
    [plan.rows, plan.rows.reverse].any fun order =>
      content == dumpsWriter.file (order.map (rowResult actor plan.max_tokens))

/-- A call, and a block, for each row. -/
def rowByRow (actor : Actor) {rows order : List InputRow} (perm : order.Perm rows) :
    Schedule rows where
  blocks := rows.map fun row => [⟨actor, [row]⟩]
  covers := by simp [List.flatMap_map, Block.input]
  emitted := order.map fun row => [⟨actor, [row]⟩]
  perm := perm.map _

theorem rowByRow_output {actor : Actor} {rows order : List InputRow} (perm : order.Perm rows)
    {max_tokens : Int} (isolated : ∀ prompt exc, raised actor max_tokens prompt = some exc →
      exc.isinstance .exception = true) :
    (rowByRow actor perm).output max_tokens = .ok (order.map (rowResult actor max_tokens)) := by
  have one : ∀ row : InputRow,
      Block.output max_tokens [⟨actor, [row]⟩] = .ok [rowResult actor max_tokens row] := by
    intro row
    have each : ∀ r ∈ [row], ∀ exc, raised actor max_tokens r.prompt = some exc →
        exc.isinstance .exception = true := fun r _ exc => isolated r.prompt exc
    obtain ⟨cols, -, -, called, isMap⟩ := call_map each
    rw [isMap] at called
    simp [Block.output, called, Except.map, bind, Except.bind, pure, Except.pure]
  have all : (order.map fun row => [(⟨actor, [row]⟩ : Call)]).mapM (Block.output max_tokens) =
      .ok (order.map fun row => [rowResult actor max_tokens row]) := by
    clear perm
    induction order with
    | nil => rfl
    | cons row order ih =>
        simp only [List.map_cons, List.mapM_cons, one, ih]
        rfl
  show ((order.map fun row => [(⟨actor, [row]⟩ : Call)]).mapM (Block.output max_tokens)).map
    List.flatten = _
  rw [all]
  exact congrArg Except.ok (List.flatMap_def.symm.trans List.map_eq_flatMap.symm)

theorem resultRow_inputLine (item : BatchInputItem) (idx : Nat) :
    resultRow (inputLine idx item.model_dump) = some ⟨toString idx, item.prompt⟩ := by
  have decoded : Json.loads (inputLine idx item.model_dump) =
      some (.obj (Json.decoded (inputRecord idx item.model_dump))) :=
    Json.loads_space (Json.loads_dumps _) (List.all_eq_true.1 rfl)
  rw [inputRecord_prompt] at decoded
  exact resultRow_of_members decoded (congrArg some (Json.Scalar.value_text _))
    (congrArg some (Json.Scalar.value_text _))

theorem read_inputText (input : List BatchInputItem) :
    (TextLines.lines (inputText (input.map (·.model_dump)))).mapM resultRow =
      some (inputRows input) := by
  rw [lines_inputText, inputRows, List.zipIdx_map, List.map_map]
  exact TextLines.mapM_map_some fun placed _ => resultRow_inputLine placed.1 placed.2

theorem lawful_answering {actor : Actor} (isolated : ∀ max_tokens prompt exc,
      raised actor max_tokens prompt = some exc → exc.isinstance .exception = true) :
    Lawful dumpsWriter (rayAnswering actor) where
  rows input rows read := by
    have same := Option.some.inj ((read_inputText input).symm.trans read)
    rw [← same, inputRows, List.length_map, List.length_zipIdx]
  writes := by
    intro plan name content written
    obtain ⟨order, ofTwo, same⟩ := List.any_eq_true.1 written
    have perm : order.Perm plan.rows := by
      rcases List.mem_pair.1 ofTwo with rfl | rfl
      · exact .refl _
      · exact List.reverse_perm _
    exact ⟨rowByRow actor perm, _, rowByRow_output perm (isolated plan.max_tokens), beq_iff_eq.1 same⟩

/-- It reads every prompt as the text that it is. -/
theorem answering_asText (actor : Actor) (input : List BatchInputItem) :
    ReadAsText (rayAnswering actor) input := read_inputText input

end KubeRayBatch.Worker
