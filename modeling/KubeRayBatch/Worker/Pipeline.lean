/-
# Worker.Pipeline -- what Ray Data may do with a dataset plan

Ray cuts the rows of the dataset into blocks and the blocks into batches, hands
every batch to one of the actors, and concatenates the blocks in the order they
come out into a single file of JSON lines.  A `Schedule` is one such execution:
every row goes through one call and keeps its place inside its block, and the
blocks may come out in any order.  `Lawful` is what is assumed of Ray and
of its JSON writer.

* `lines_file`: a result file is read back line by line;
* `tally_file`: the tally of a result file counts the rows without and with an error;
* `resultRows_file`: the decoded ids and prompts are those of the emitted rows;
* `emitted_input_eq_iff`: the rows come out in input order exactly when the
  non-empty blocks do.
-/
import KubeRayBatch.Worker.Predictor
import KubeRayBatch.Api.Storage

namespace KubeRayBatch.Worker

open Theory Cluster Api

set_option autoImplicit false

/-! ## Executions -/

/-- One batch, and the actor that processed it. -/
structure Call where
  actor : Actor
  rows : List InputRow

/-- One block, cut into batches. -/
abbrev Block := List Call

def Block.input (block : Block) : List InputRow := block.flatMap (·.rows)

/-- The output rows of a block; an exception that a call lets through ends it. -/
def Block.output (max_tokens : Int) (block : Block) : Except PyException (List OutputRow) :=
  (block.mapM fun c => call c.actor max_tokens c.rows).map List.flatten

structure Schedule (rows : List InputRow) where
  /-- The blocks in the order they were cut. -/
  blocks : List Block
  covers : blocks.flatMap Block.input = rows
  /-- The blocks in the order they come out. -/
  emitted : List Block
  perm : emitted.Perm blocks

def Schedule.output {rows : List InputRow} (s : Schedule rows) (max_tokens : Int) :
    Except PyException (List OutputRow) :=
  (s.emitted.mapM (Block.output max_tokens)).map List.flatten

/-! ## The result file -/

def jsonText : Option String → Json.Value
  | none => .null
  | some s => .str (.ofText s.toList)

/-- The JSON object of an output row. -/
def OutputRow.json (row : OutputRow) : Json.Value :=
  .obj [(.ofText "id".toList, .str (.ofText row.id.toList)),
    (.ofText "prompt".toList, .str (.ofText row.prompt.toList)),
    (.ofText "response".toList, jsonText row.response),
    (.ofText "finish_reason".toList, jsonText row.finish_reason),
    (.ofText "prompt_tokens".toList, .int row.prompt_tokens),
    (.ofText "completion_tokens".toList, .int row.completion_tokens),
    (.ofText "error".toList, jsonText row.error)]

/-- Ray's JSON writer: one line for each row. -/
structure ResultWriter where
  encode : OutputRow → Text
  loads_encode : ∀ row, Json.loads (encode row) = some row.json
  one_line : ∀ row, ∀ c ∈ encode row, TextLines.isBreak c = false
  not_blank : ∀ row, TextLines.blank (encode row) = false

def scalarText : Option String → Json.Scalar
  | none => .null
  | some s => .str (.ofText s.toList)

theorem value_scalarText (text : Option String) : (scalarText text).value = jsonText text := by
  cases text with
  | none => rfl
  | some s => exact Json.Scalar.value_text s.toList

/-- A writer in the layout of `json.dumps`. -/
def dumpsWriter : ResultWriter where
  encode := fun row => Json.dumps
    [("id".toList, .str (.ofText row.id.toList)),
      ("prompt".toList, .str (.ofText row.prompt.toList)),
      ("response".toList, scalarText row.response),
      ("finish_reason".toList, scalarText row.finish_reason),
      ("prompt_tokens".toList, .int row.prompt_tokens),
      ("completion_tokens".toList, .int row.completion_tokens),
      ("error".toList, scalarText row.error)]
  loads_encode := by
    intro row
    rw [Json.loads_dumps]
    simp only [Json.decoded, List.map_cons, List.map_nil, Json.Scalar.value_text, value_scalarText,
      OutputRow.json]
    rfl
  one_line := by
    intro row c mem
    refine TextLines.isBreak_of_printable (Json.dumps_printable ?_ mem)
    have text : ∀ value x, scalarText value ≠ .float x := by
      intro value x
      cases value <;> simp [scalarText]
    simp [text]
  not_blank := by
    intro row
    simp [Json.dumps, TextLines.blank, TextLines.isWhite]

def ResultWriter.file (writer : ResultWriter) (rows : List OutputRow) : Text :=
  TextLines.unlines (rows.map writer.encode)

/-- The rows of the dataset for a list of prompts. -/
def inputRows (input : List BatchInputItem) : List InputRow :=
  input.zipIdx.map fun (item, idx) => ⟨toString idx, item.prompt⟩

/-- Ray reads every prompt of an input file as the text that it is.  (A column whose texts all
look like dates is read as one of timestamps.) -/
def ReadAsText (rd : RayData) (input : List BatchInputItem) : Prop :=
  rd.read_json (inputText (input.map (·.model_dump))) = some (inputRows input)

/-- What is assumed of Ray Data. -/
structure Lawful (writer : ResultWriter) (rd : RayData) : Prop where
  /-- An input file that is read gives a row for each of its lines. -/
  rows : ∀ (input : List BatchInputItem) (rows : List InputRow),
    rd.read_json (inputText (input.map (·.model_dump))) = some rows → rows.length = input.length
  /-- What is written is the output of some execution. -/
  writes : ∀ plan name content, rd.may_write plan name content = true →
    ∃ (s : Schedule plan.rows) (outs : List OutputRow),
      s.output plan.max_tokens = .ok outs ∧ content = writer.file outs

/-! ## The tally -/

/-- Count the non-blank lines without and with an error. -/
def tally (rt : Runtime) : List Text → Nat × Nat → Except PyException (Nat × Nat)
  | [], counts => .ok counts
  | line :: rest, (completed, failed) =>
      if TextLines.blank line then tally rt rest (completed, failed)
      else
        match Json.loads line with
        | none => .error .jsonDecodeError
        | some row =>
            match dictGet row "error" .null with
            | .error exc => .error exc
            | .ok error =>
                if truthy rt error then tally rt rest (completed, failed + 1)
                else tally rt rest (completed + 1, failed)

/-- The tally of a result file. -/
def tallyOf (rt : Runtime) (content : Text) : Except PyException (Nat × Nat) :=
  tally rt (TextLines.lines content) (0, 0)

/-! ## Reading a result file back -/

section File

variable (writer : ResultWriter) (rt : Runtime)

theorem lines_file (rows : List OutputRow) :
    TextLines.lines (writer.file rows) = rows.map fun row => writer.encode row ++ ['\n'] := by
  unfold ResultWriter.file
  rw [TextLines.lines_unlines, List.map_map]
  · rfl
  · intro line mem c inLine
    obtain ⟨row, -, rfl⟩ := List.mem_map.1 mem
    exact writer.one_line row c inLine

theorem loads_line (row : OutputRow) :
    Json.loads (writer.encode row ++ ['\n']) = some row.json :=
  Json.loads_space (writer.loads_encode row) (List.all_eq_true.1 rfl)

theorem line_not_blank (row : OutputRow) :
    TextLines.blank (writer.encode row ++ ['\n']) = false := by
  have inner := writer.not_blank row
  simp only [TextLines.blank, List.all_append, Bool.and_eq_false_iff] at inner ⊢
  exact .inl inner

theorem json_error (row : OutputRow) :
    dictGet row.json "error" .null = .ok (jsonText row.error) := rfl

/-- The rows without an error, and those with one. -/
def completedRows (rows : List OutputRow) : Nat := rows.countP fun row => row.error.isNone
def failedRows (rows : List OutputRow) : Nat := rows.countP fun row => row.error.isSome

theorem completed_add_failed (rows : List OutputRow) :
    completedRows rows + failedRows rows = rows.length := by
  have complement : failedRows rows = rows.countP fun row => ¬ row.error.isNone := by
    unfold failedRows
    congr 1
    funext row
    cases row.error <;> rfl
  rw [complement, completedRows]
  exact (List.length_eq_countP_add_countP _).symm

theorem tally_rows (rows : List OutputRow) (explained : ∀ row ∈ rows, row.error ≠ some "")
    (counts : Nat × Nat) :
    tally rt (rows.map fun row => writer.encode row ++ ['\n']) counts =
      .ok (counts.1 + completedRows rows, counts.2 + failedRows rows) := by
  induction rows generalizing counts with
  | nil => rfl
  | cons row rows ih =>
      have tail := ih fun other mem => explained other (List.mem_cons_of_mem row mem)
      have head := explained row List.mem_cons_self
      simp only [List.map_cons, tally, line_not_blank, loads_line, json_error, Bool.false_eq_true,
        if_false]
      cases error : row.error with
      | none =>
          simp only [jsonText, truthy, Bool.false_eq_true, if_false, tail, completedRows, failedRows,
            List.countP_cons, error, Option.isNone_none, Option.isSome_none, if_true]
          congr 2
          all_goals omega
      | some text =>
          have nonempty : Str.ofText text.toList ≠ [] := by
            intro empty
            rw [error] at head
            exact head (congrArg some (String.toList_eq_nil_iff.1 (Str.ofText_eq_nil.1 empty)))
          simp only [jsonText, truthy, List.isEmpty_eq_false_iff.2 nonempty, Bool.not_false, if_true,
            tail, completedRows, failedRows, List.countP_cons, error, Option.isNone_some,
            Option.isSome_some, Bool.false_eq_true, if_false]
          congr 2
          all_goals omega

/-- **The tally of a result file.** -/
theorem tally_file (rows : List OutputRow) (explained : ∀ row ∈ rows, row.error ≠ some "") :
    tallyOf rt (writer.file rows) = .ok (completedRows rows, failedRows rows) := by
  unfold tallyOf
  rw [lines_file, tally_rows writer rt rows explained]
  simp

/-- The id and the prompt of a result line. -/
def resultRow (line : Text) : Option InputRow :=
  match Json.loads line with
  | some (.obj members) =>
      match Json.Value.get? members "id".toList, Json.Value.get? members "prompt".toList with
      | some (.str id), some (.str prompt) =>
          match id.text?, prompt.text? with
          | some id, some prompt => some ⟨String.ofList id, String.ofList prompt⟩
          | _, _ => none
      | _, _ => none
  | _ => none

/-- The ids and prompts of a result file, in the order of its non-blank lines. -/
def resultRows (content : Text) : Option (List InputRow) :=
  ((TextLines.lines content).filter fun line => !TextLines.blank line).mapM resultRow

theorem resultRow_of_members {line : Text} {members : List (Str × Json.Value)} {row : InputRow}
    (decoded : Json.loads line = some (.obj members))
    (id : Json.Value.get? members "id".toList = some (.str (.ofText row.id.toList)))
    (prompt : Json.Value.get? members "prompt".toList = some (.str (.ofText row.prompt.toList))) :
    resultRow line = some row := by
  simp only [resultRow, decoded, id, prompt, Str.text?_ofText, String.ofList_toList]

theorem resultRow_line (row : OutputRow) :
    resultRow (writer.encode row ++ ['\n']) = some row.input :=
  resultRow_of_members (loads_line writer row) rfl rfl

/-- **A result file holds the rows that were emitted.** -/
theorem resultRows_file (rows : List OutputRow) :
    resultRows (writer.file rows) = some (rows.map (·.input)) := by
  unfold resultRows
  rw [lines_file]
  induction rows with
  | nil => rfl
  | cons row rows ih =>
      simp only [List.map_cons, List.filter_cons, line_not_blank, Bool.not_false, if_true,
        List.mapM_cons, resultRow_line, ih]
      rfl

end File

/-! ## What a schedule emits -/

/-- Running the parts of a list and concatenating what they give. -/
theorem mapM_flatten {ε α β γ : Type} {f : α → Except ε (List β)} {l : List α} {outs : List β}
    {g : β → γ} {h : α → List γ} {P : β → Prop}
    (each : ∀ a part, f a = .ok part → part.map g = h a ∧ ∀ b ∈ part, P b)
    (ran : (l.mapM f).map List.flatten = .ok outs) :
    outs.map g = l.flatMap h ∧ ∀ b ∈ outs, P b := by
  induction l generalizing outs with
  | nil => cases ran; simp
  | cons a l ih =>
      rw [List.mapM_cons] at ran
      cases head : f a with
      | error e => rw [head] at ran; cases ran
      | ok part =>
          cases tail : l.mapM f with
          | error e => rw [head, tail] at ran; cases ran
          | ok parts =>
              rw [head, tail] at ran
              cases ran
              obtain ⟨here, hereAll⟩ := each a part head
              have rest : (l.mapM f).map List.flatten = .ok parts.flatten := by rw [tail]; rfl
              obtain ⟨later, laterAll⟩ := ih rest
              refine ⟨by simp [here, later], ?_⟩
              intro b mem
              rw [List.flatten_cons, List.mem_append] at mem
              exact mem.elim (hereAll b) (laterAll b)

section Emitted

variable {rows : List InputRow} {s : Schedule rows} {max_tokens : Int} {outs : List OutputRow}

theorem block_output {block : Block} (ran : block.output max_tokens = .ok outs) :
    outs.map (·.input) = block.input ∧ ∀ row ∈ outs, row.error ≠ some "" :=
  mapM_flatten (l := block) (f := fun c : Call => call c.actor max_tokens c.rows)
    (fun _ _ called => ⟨call_input called, fun _ mem failed => call_error called mem failed rfl⟩) ran

/-- **The emitted rows**, block after block. -/
theorem schedule_output (ran : s.output max_tokens = .ok outs) :
    outs.map (·.input) = s.emitted.flatMap Block.input ∧ ∀ row ∈ outs, row.error ≠ some "" :=
  mapM_flatten (fun _ _ ran => block_output ran) ran

theorem emitted_perm (s : Schedule rows) : (s.emitted.flatMap Block.input).Perm rows := by
  have flat := s.perm.flatMap_right Block.input
  rwa [s.covers] at flat

theorem schedule_length (ran : s.output max_tokens = .ok outs) : outs.length = rows.length := by
  have emitted := (schedule_output ran).1
  have lengths := congrArg List.length emitted
  rw [List.length_map] at lengths
  rw [lengths, (emitted_perm s).length_eq]

/-- Non-empty parts without a common member are determined by their concatenation. -/
theorem eq_of_flatten_eq {α : Type} {parts cut : List (List α)} (perm : parts.Perm cut)
    (nonempty : ∀ part ∈ cut, part ≠ []) (nodup : cut.flatten.Nodup)
    (same : parts.flatten = cut.flatten) : parts = cut := by
  induction cut generalizing parts with
  | nil => exact perm.eq_nil
  | cons b cut ih =>
      cases parts with
      | nil => exact absurd perm.symm.eq_nil (by simp)
      | cons a parts =>
          have aMem : a ∈ b :: cut := perm.subset List.mem_cons_self
          obtain ⟨x, a', rfl⟩ := List.exists_cons_of_ne_nil (nonempty a aMem)
          obtain ⟨y, b', rfl⟩ := List.exists_cons_of_ne_nil (nonempty b List.mem_cons_self)
          have first : x = y := by
            simp only [List.flatten_cons, List.cons_append, List.cons.injEq] at same
            exact same.1
          -- the first row is in one part only
          rcases List.mem_cons.1 aMem with here | later
          · rw [here] at perm same ⊢
            rw [List.flatten_cons, List.flatten_cons, List.append_cancel_left_eq] at same
            rw [List.flatten_cons, List.nodup_append] at nodup
            rw [ih perm.cons_inv (fun part mem => nonempty part (List.mem_cons_of_mem _ mem))
              nodup.2.1 same]
          · rw [List.flatten_cons, List.nodup_append] at nodup
            have inTail : x ∈ cut.flatten := List.mem_flatten.2 ⟨_, later, List.mem_cons_self⟩
            exact absurd first.symm (nodup.2.2 y List.mem_cons_self x inTail)

/-- The non-empty blocks, by their rows. -/
def nonemptyInputs (blocks : List Block) : List (List InputRow) :=
  (blocks.map Block.input).filter (· ≠ [])

theorem flatten_nonemptyInputs (blocks : List Block) :
    (nonemptyInputs blocks).flatten = blocks.flatMap Block.input := by
  rw [nonemptyInputs, List.flatten_filter_ne_nil, List.flatMap_def]

/-- **Order** is kept exactly when the non-empty blocks come out as they were cut. -/
theorem emitted_input_eq_iff (s : Schedule rows) (distinct : rows.Nodup) :
    s.emitted.flatMap Block.input = rows ↔ nonemptyInputs s.emitted = nonemptyInputs s.blocks := by
  have cut : (nonemptyInputs s.blocks).flatten = rows :=
    (flatten_nonemptyInputs s.blocks).trans s.covers
  constructor
  · intro inOrder
    refine eq_of_flatten_eq ((s.perm.map Block.input).filter _) ?_ (by rw [cut]; exact distinct) ?_
    · intro part mem
      simpa using (List.mem_filter.1 mem).2
    · rw [cut, flatten_nonemptyInputs, inOrder]
  · intro same
    rw [← flatten_nonemptyInputs, same, cut]

end Emitted

theorem inputRows_ids (input : List BatchInputItem) :
    (inputRows input).map (·.id) = (List.range' 0 input.length).map toString := by
  rw [← List.zipIdx_map_snd 0 input, List.map_map, inputRows, List.map_map]
  rfl

theorem toString_injective : Function.Injective (toString : Nat → String) := by
  intro n m same
  have chars := congrArg String.toList same
  rw [Decimal.toList_toString, Decimal.toList_toString] at chars
  exact Decimal.chars_injective chars

theorem length_inputRows (input : List BatchInputItem) : (inputRows input).length = input.length := by
  simp [inputRows]

end KubeRayBatch.Worker
