/-
# Worker.Predictor -- the user-defined function of the dataset

`QwenPredictor.__call__` receives the rows of one batch as columns, preallocates
five result columns, and fills the entries of one row after the other.  An
exception of one row is recorded in its `error` entry and the next row is
processed; the entries that were written before the exception stay.

* `call_input`: a call drops, duplicates and reorders no row;
* `call_error`: a recorded error is never the empty string, so it counts as an error
  wherever its truth value is asked for.
-/
import KubeRayBatch.Cluster.World

namespace KubeRayBatch.Worker

open Theory Cluster

set_option autoImplicit false

/-- A row of the output dataset. -/
structure OutputRow where
  id : String
  prompt : String
  response : Option String
  finish_reason : Option String
  prompt_tokens : Nat
  completion_tokens : Nat
  error : Option String
  deriving DecidableEq, Repr

/-- What a constructed predictor computes with: its tokenizer and its model. -/
structure Actor where
  /-- The chat template applied to the system and the user message. -/
  apply_chat_template : String → Except PyException String
  /-- The token ids of a text, before truncation. -/
  encode : String → Except PyException (List Int)
  /-- The first sequence `generate` returns for `max_new_tokens`. -/
  generate : List Int → Int → Except PyException (List Int)
  decode : List Int → Except PyException String
  eos_token_id : Int

/-- `str.strip` -/
def strip (s : String) : String :=
  String.ofList
    ((s.toList.dropWhile TextLines.isWhite).reverse.dropWhile TextLines.isWhite).reverse

/-- The result columns, preallocated. -/
structure Columns where
  response : List (Option String)
  finish_reason : List (Option String)
  prompt_tokens : List Nat
  completion_tokens : List Nat
  error : List (Option String)

def Columns.blank (n : Nat) : Columns where
  response := List.replicate n none
  finish_reason := List.replicate n none
  prompt_tokens := List.replicate n 0
  completion_tokens := List.replicate n 0
  error := List.replicate n none

section Call

variable (actor : Actor) (max_tokens : Int)

/-- The body of the `try`: the columns it leaves, and how it ended. -/
def attempt (idx : Nat) (prompt : String) (cols : Columns) : Columns × Except PyException Unit :=
  match actor.apply_chat_template prompt with
  | .error exc => (cols, .error exc)
  | .ok text =>
    match actor.encode text with
    | .error exc => (cols, .error exc)
    | .ok ids =>
      -- truncation=True, max_length=2048
      let input_ids := ids.take 2048
      let cols := { cols with prompt_tokens := cols.prompt_tokens.set idx input_ids.length }
      match actor.generate input_ids max_tokens with
      | .error exc => (cols, .error exc)
      | .ok output =>
        let generated_ids := output.drop input_ids.length
        let cols :=
          { cols with completion_tokens := cols.completion_tokens.set idx generated_ids.length }
        match actor.decode generated_ids with
        | .error exc => (cols, .error exc)
        | .ok decoded =>
          let last_token := generated_ids.getLast?.getD (-1)
          ({ cols with
              response := cols.response.set idx (some (strip decoded))
              finish_reason := cols.finish_reason.set idx
                (some (if last_token = actor.eos_token_id then "stop" else "length")) }, .ok ())

/-- `f"{type(exc).__name__}: {exc}"`; half of a surrogate pair, which no column of a block holds,
is shown as its escape. -/
def errorText (exc : PyException) : String := exc.typeName ++ ": " ++ exc.shown

/-- One row: an `Exception` is recorded, anything else ends the call. -/
def processRow (idx : Nat) (prompt : String) (cols : Columns) : Except PyException Columns :=
  match attempt actor max_tokens idx prompt cols with
  | (cols, .ok ()) => .ok cols
  | (cols, .error exc) =>
      if exc.isinstance .exception then
        .ok { cols with error := cols.error.set idx (some (errorText exc)) }
      else .error exc

/-- The loop over the rows from position `idx` on. -/
def processRows : Nat → List InputRow → Columns → Except PyException Columns
  | _, [], cols => .ok cols
  | idx, row :: rows, cols =>
      match processRow actor max_tokens idx row.prompt cols with
      | .ok cols => processRows (idx + 1) rows cols
      | .error exc => .error exc

/-- The rows of a dict of columns. -/
def Columns.rows (cols : Columns) (batch : List InputRow) : List OutputRow :=
  batch.zipIdx.map fun (row, i) =>
    { id := row.id
      prompt := row.prompt
      response := (cols.response[i]?).getD none
      finish_reason := (cols.finish_reason[i]?).getD none
      prompt_tokens := (cols.prompt_tokens[i]?).getD 0
      completion_tokens := (cols.completion_tokens[i]?).getD 0
      error := (cols.error[i]?).getD none }

/-- `QwenPredictor.__call__` -/
def call (batch : List InputRow) : Except PyException (List OutputRow) :=
  (processRows actor max_tokens 0 batch (.blank batch.length)).map fun cols => cols.rows batch

/-! ## What a call keeps -/

variable {actor max_tokens} {batch : List InputRow} {outs : List OutputRow}

/-- The input row that an output row answers. -/
def OutputRow.input (row : OutputRow) : InputRow := ⟨row.id, row.prompt⟩

/-- **A call answers its rows one by one**, in their order. -/
theorem call_input (called : call actor max_tokens batch = .ok outs) :
    outs.map (·.input) = batch := by
  unfold call at called
  cases processed : processRows actor max_tokens 0 batch (.blank batch.length) with
  | error exc => rw [processed] at called; cases called
  | ok cols =>
      rw [processed] at called
      cases called
      simp only [Columns.rows, List.map_map, Function.comp_def, OutputRow.input]
      exact List.zipIdx_map_fst 0 batch

theorem errorText_ne_empty (exc : PyException) : errorText exc ≠ "" := by
  intro empty
  have chars := congrArg String.toList empty
  simp [errorText, String.toList_append] at chars

/-- Every recorded error is the text of an exception. -/
def Columns.Explained (cols : Columns) : Prop :=
  ∀ entry ∈ cols.error, ∀ text, entry = some text → text ≠ ""

theorem blank_explained (n : Nat) : (Columns.blank n).Explained := by
  intro entry mem text same
  rw [List.eq_of_mem_replicate mem] at same
  cases same

/-- The `try` body never touches the error column. -/
theorem attempt_error (actor : Actor) (max_tokens : Int) (idx : Nat) (prompt : String)
    (cols : Columns) : (attempt actor max_tokens idx prompt cols).1.error = cols.error := by
  simp only [attempt]
  repeat' split
  all_goals rfl

theorem processRow_explained {idx : Nat} {prompt : String} {cols cols' : Columns}
    (explained : cols.Explained)
    (processed : processRow actor max_tokens idx prompt cols = .ok cols') : cols'.Explained := by
  have untouched := attempt_error actor max_tokens idx prompt cols
  unfold processRow at processed
  split at processed
  · rename_i after attempted
    cases processed
    intro entry mem
    rw [attempted] at untouched
    exact explained entry (untouched ▸ mem)
  · rename_i after exc attempted
    rw [attempted] at untouched
    split at processed
    · cases processed
      intro entry mem text same
      rcases List.mem_or_eq_of_mem_set mem with old | new
      · exact explained entry (untouched ▸ old) text same
      · rw [new, Option.some.injEq] at same
        rw [← same]
        exact errorText_ne_empty exc
    · cases processed

theorem processRows_explained {idx : Nat} {rows : List InputRow} {cols cols' : Columns}
    (explained : cols.Explained)
    (processed : processRows actor max_tokens idx rows cols = .ok cols') : cols'.Explained := by
  induction rows generalizing idx cols with
  | nil => cases processed; exact explained
  | cons row rows ih =>
      simp only [processRows] at processed
      split at processed
      · rename_i after rowDone
        exact ih (processRow_explained explained rowDone) processed
      · cases processed

/-- **A recorded error is not empty.** -/
theorem call_error (called : call actor max_tokens batch = .ok outs) {row : OutputRow}
    (mem : row ∈ outs) {text : String} (failed : row.error = some text) : text ≠ "" := by
  unfold call at called
  cases processed : processRows actor max_tokens 0 batch (.blank batch.length) with
  | error exc => rw [processed] at called; cases called
  | ok cols =>
      rw [processed] at called
      cases called
      obtain ⟨⟨input, i⟩, -, rfl⟩ := List.mem_map.1 mem
      have explained := processRows_explained (blank_explained batch.length) processed
      cases entry : cols.error[i]? with
      | none => simp [entry] at failed
      | some value =>
          simp only [entry, Option.getD_some] at failed
          exact explained value (List.mem_of_getElem? entry) text failed

end Call

end KubeRayBatch.Worker
