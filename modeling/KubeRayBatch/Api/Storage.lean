/-
# Api.Storage -- the batch directory as the API sees it

`write_inputs_jsonl` writes one record per prompt, stamped with its position;
the markers are read whole and decoded.  Text reaches a file character by
character, so a process that stops in the middle of a write leaves any prefix.
-/
import KubeRayBatch.Api.RayClient
import KubeRayBatch.Theory.PosixPath

namespace KubeRayBatch.Api

open Theory Cluster

set_option autoImplicit false

/-- Write text to an open file. -/
def writeText (b : String) (f : FileName) (text : Text) : Proc Unit :=
  Program.forEach text fun c => ask (.dir b (.append f [c]))

/-- `str(path)` of a file of the batch directory, under a results root without a slash at its
end. -/
def filePath (root batch_id : String) (f : FileName) : String :=
  root ++ "/" ++ batch_id ++ "/" ++ f.name

/-- `root / batch_id` -/
def batch_dir (root batch_id : String) : PosixPath.Path := PosixPath.join root.toList batch_id.toList

/-- `batch_dir(root, batch_id) / f` -/
def batch_file (root batch_id : String) (f : FileName) : PosixPath.Path :=
  PosixPath.join (batch_dir root batch_id) f.name.toList

theorem name_plain (f : FileName) : PosixPath.Plain f.name.toList := by
  cases f <;> exact .of_head (by decide) (by decide)

/-! ## Input -/

/-- `{**record, **item}`: a repeated key keeps its place and takes the new value. -/
def merge (record item : Json.Record) : Json.Record :=
  item.foldl
    (fun acc member =>
      if acc.any (fun old => old.1 == member.1) then
        acc.map fun old => if old.1 == member.1 then member else old
      else acc ++ [member])
    record

/-- The record written for the item at position `idx`. -/
def inputRecord (idx : Nat) (item : Json.Record) : Json.Record :=
  merge [("id".toList, .str (.ofText (toString idx).toList))] item

/-- One line of `input.jsonl`. -/
def inputLine (idx : Nat) (item : Json.Record) : Text := Json.dumps (inputRecord idx item) ++ ['\n']

def write_inputs_jsonl (root batch_id : String) (items : List Json.Record) : Proc String := do
  if items.isEmpty then
    .raise (.valueError "write_inputs_jsonl requires at least one item")
  else
    ask (.dir batch_id .mkdir)
    ask (.dir batch_id (.create .input))
    Program.forEach items.zipIdx fun (item, idx) => writeText batch_id .input (inputLine idx item)
    pure (filePath root batch_id .input)

/-- The text of a complete input file. -/
def inputText (items : List Json.Record) : Text :=
  items.zipIdx.flatMap fun (item, idx) => inputLine idx item

/-! ## Results and markers -/

/-- The lines of `results.jsonl`, as they are streamed. -/
def iter_results_ndjson (root batch_id : String) : Proc (List Text) := do
  let present : Bool ← ask (.dir batch_id (.exists .results))
  if !present then
    .raise (.fileNotFoundError ("Results file not found: " ++ filePath root batch_id .results))
  else
    let content : Text ← ask (.dir batch_id (.read_text .results))
    pure (TextLines.lines content)

/-- Parse a marker file; `None` is JSON's `null`, so an absent marker and a marker
that holds `null` look the same to the caller. -/
def read_marker (f : FileName) (batch_id : String) : Proc Json.Value := do
  let present : Bool ← ask (.dir batch_id (.exists f))
  if !present then
    pure .null
  else
    let text : Text ← ask (.dir batch_id (.read_text f))
    match Json.loads text with
    | some data => pure data
    | none => .raise .jsonDecodeError

def read_success_marker (batch_id : String) : Proc Json.Value := read_marker .success batch_id

def read_failure_marker (batch_id : String) : Proc Json.Value := read_marker .failed batch_id

/-! ## What a request's input file holds -/

theorem inputRecord_prompt (idx : Nat) (item : BatchInputItem) :
    inputRecord idx item.model_dump =
      [("id".toList, .str (.ofText (toString idx).toList)), ("prompt".toList, .str (.ofText item.prompt.toList))] := rfl

/-- The input file of a list of prompts is one line per prompt. -/
theorem inputText_unlines (items : List Json.Record) :
    inputText items =
      TextLines.unlines (items.zipIdx.map fun (item, idx) => Json.dumps (inputRecord idx item)) := by
  simp [inputText, inputLine, TextLines.unlines, List.flatMap_map]

/-- **A complete input file has one line per prompt.** -/
theorem lines_inputText (input : List BatchInputItem) :
    TextLines.lines (inputText (input.map (·.model_dump))) =
      (input.map (·.model_dump)).zipIdx.map fun (item, idx) => inputLine idx item := by
  rw [inputText_unlines, TextLines.lines_unlines, List.map_map]
  · rfl
  · intro line mem c inLine
    obtain ⟨⟨item, idx⟩, placed, rfl⟩ := List.mem_map.1 mem
    obtain ⟨request, -, rfl⟩ := List.mem_map.1 (List.fst_mem_of_mem_zipIdx placed)
    refine TextLines.isBreak_of_printable (Json.dumps_printable ?_ inLine)
    intro member inRecord x
    rw [inputRecord_prompt] at inRecord
    simp only [List.mem_cons, List.not_mem_nil, or_false] at inRecord
    rcases inRecord with rfl | rfl <;> simp

theorem length_lines_inputText (input : List BatchInputItem) :
    (TextLines.lines (inputText (input.map (·.model_dump)))).length = input.length := by
  simp [lines_inputText]

end KubeRayBatch.Api
