/-
# Worker.BatchInfer -- the entrypoint of a job

`run_batch` reads the inputs, has Ray write the results into `_staging`, renames
the first staged file to `results.jsonl`, counts its lines, and writes
`_SUCCESS`; `main` turns whatever `Exception` it raises into a `_FAILED` marker
and the exit status 1.  Ray's `write_json` adds one new file to `_staging` and
fills it piece by piece, and so are the markers written.
-/
import KubeRayBatch.Worker.Arguments
import KubeRayBatch.Worker.Pipeline
import Mathlib.Data.List.Sort
import Mathlib.Data.String.Basic

namespace KubeRayBatch.Worker

open Theory Cluster Api

set_option autoImplicit false

/-- The environment of a job: `RESULTS_DIR` and `MODEL_NAME`. -/
structure Environ where
  DEFAULT_RESULTS_ROOT : String
  DEFAULT_MODEL : String

/-- `path.write_text(text)` -/
def write_text (b : String) (f : FileName) (text : Text) : Proc Unit := do
  ask (.dir b (.create f))
  writeText b f text

/-- `ds.write_json(staging)`: execute the plan into a new staged file. -/
def write_json (b : String) (plan : Plan) : Proc Unit := do
  let (name, content) : String × Text ← ask (.dir b (.execute plan))
  ask (.dir b (.create_staged name))
  Program.forEach content fun c => ask (.dir b (.append_staged name [c]))

/-- `max(2, total // 16 or 2)` -/
def blockCount (total : Nat) : Nat := max 2 (if total / 16 = 0 then 2 else total / 16)

/-- The dataset that is written out. -/
def planOf (rows : List InputRow) (model : String) (max_tokens : Int) : Plan where
  rows := rows
  num_blocks := blockCount rows.length
  model_name := model
  max_tokens := max_tokens
  concurrency := 2
  batch_size := 8
  output_blocks := 1

structure Counts where
  total : Nat
  completed : Nat
  failed : Nat
  deriving DecidableEq, Repr

/-- `sorted(staging_dir.glob("*.json"))` -/
def sortedJson (names : List String) : List String :=
  (names.filter isJson).insertionSort (· ≤ ·)

/-- The record of the `_SUCCESS` marker. -/
def successRecord (batch_id model : String) (counts : Counts) (finished_at : Json.Float) : Json.Record :=
  [("batch_id".toList, .str (.ofText batch_id.toList)),
   ("total".toList, .int counts.total),
   ("completed".toList, .int counts.completed),
   ("failed".toList, .int counts.failed),
   ("model".toList, .str (.ofText model.toList)),
   ("finished_at".toList, .float finished_at)]

/-- What a reader of the decoded record finds. -/
theorem successRecord_completed (b model : String) (counts : Counts) (x : Json.Float)
    (default : Json.Value) :
    dictGet (.obj (Json.decoded (successRecord b model counts x))) "completed" default =
      .ok (.int counts.completed) := rfl

theorem successRecord_failed (b model : String) (counts : Counts) (x : Json.Float)
    (default : Json.Value) :
    dictGet (.obj (Json.decoded (successRecord b model counts x))) "failed" default =
      .ok (.int counts.failed) := rfl

/-- The record of the `_FAILED` marker. -/
def failureRecord (batch_id : String) (error traceback : Str) (failed_at : Json.Float) : Json.Record :=
  [("batch_id".toList, .str (.ofText batch_id.toList)),
   ("error".toList, .str error),
   ("traceback".toList, .str traceback),
   ("failed_at".toList, .float failed_at)]

theorem failureRecord_error (b : String) (error traceback : Str) (x : Json.Float)
    (default : Json.Value) :
    dictGet (.obj (Json.decoded (failureRecord b error traceback x))) "error" default =
      .ok (.str error.joined) := rfl

section Job

variable (rt : Runtime) (env : Environ)

/-- Unlink a file if it exists. -/
def unlinkIfPresent (b : String) (f : FileName) : Proc Unit := do
  let present : Bool ← ask (.dir b (.exists f))
  if present then ask (.dir b (.unlink f)) else pure ()

/-- Remove what is left in the staging directory, and the directory. -/
def cleanStaging (b : String) : Proc Unit := do
  let leftovers : List String ← ask (.dir b .glob_staging)
  Program.forEach leftovers fun leftover => ask (.dir b (.unlink_staged leftover))
  ask (.dir b .rmdir_staging)

/-- Rename the first staged file to `results.jsonl`. -/
def promoteFirst (b : String) : Proc Unit := do
  let names : List String ← ask (.dir b .glob_staging)
  match sortedJson names with
  | [] =>
      .raise (.runtimeError ("Ray Data wrote no output files to " ++
        env.DEFAULT_RESULTS_ROOT ++ "/" ++ b ++ "/_staging"))
  | staged_file :: _ => ask (.dir b (.promote staged_file))

/-- Write the `_SUCCESS` marker of a finished run. -/
def writeSuccess (b model : String) (counts : Counts) : Proc Unit := do
  let finished_at : Json.Float ← ask .time
  write_text b .success (Json.dumps (successRecord b model counts finished_at))

def run_batch (batch_id model : String) (max_tokens : Int) : Proc Counts := do
  let present : Bool ← ask (.dir batch_id (.exists .input))
  if !present then
    .raise (.fileNotFoundError
      ("Input file not found: " ++ filePath env.DEFAULT_RESULTS_ROOT batch_id .input))
  else
    ask (.log .info ("Starting batch_id=" ++ batch_id ++ " model=" ++ model))
    ask (.log .info
      ("Reading inputs from " ++ filePath env.DEFAULT_RESULTS_ROOT batch_id .input))
    let rows : List InputRow ← ask (.dir batch_id .read_json)
    let total := rows.length
    ask (.log .info ("Read " ++ toString total ++ " prompts; repartitioning to " ++
      toString (blockCount total) ++ " blocks"))
    ask (.log .info "Running map_batches with concurrency=2 batch_size=8")
    ask (.dir batch_id .mkdir_staging)
    ask (.log .info
      ("Writing results to staging: " ++ env.DEFAULT_RESULTS_ROOT ++ "/" ++ batch_id ++ "/_staging"))
    write_json batch_id (planOf rows model max_tokens)
    promoteFirst env batch_id
    let content : Text ← ask (.dir batch_id (.read_text .results))
    let (completed, failed) ← lift (tallyOf rt content)
    ask (.log .info ("Batch " ++ batch_id ++ " done: total=" ++ toString total ++
      " completed=" ++ toString completed ++ " failed=" ++ toString failed))
    unlinkIfPresent batch_id .failed
    writeSuccess batch_id model ⟨total, completed, failed⟩
    cleanStaging batch_id
    pure ⟨total, completed, failed⟩

/-- The handler of `main`: drop a failure marker. -/
def writeFailure (batch_id : String) (exc : PyException) : Proc Nat := do
  ask (.log .error ("Batch " ++ batch_id ++ " FAILED: " ++ exc.shown))
  let logged : Str ← ask .format_exc
  ask (.log .error (shown logged))
  ask (.dir batch_id .mkdir)
  let traceback : Str ← ask .format_exc
  let failed_at : Json.Float ← ask .time
  write_text batch_id .failed
    (Json.dumps (failureRecord batch_id exc.message traceback failed_at))
  pure 1

/-- The body of the `try` of `main`. -/
def tryBody (args : Arguments) : Proc Nat := do
  ask .ray_init
  let counts ← run_batch rt env args.batch_id args.model args.max_tokens
  ask (.log .info ("Success: \x7b'total': " ++ toString counts.total ++ ", 'completed': " ++
    toString counts.completed ++ ", 'failed': " ++ toString counts.failed ++ "\x7d"))
  pure 0

/-- `main` with parsed arguments. -/
def runJob (args : Arguments) : Proc Nat :=
  (tryBody rt env args).catching fun exc =>
    if exc.isinstance .exception then some (writeFailure args.batch_id exc) else none

/-- `main`, given `sys.argv[1:]`; the result is the exit status. -/
def main (argv : List Text) : Proc Nat :=
  match parse_args env.DEFAULT_MODEL argv with
  | .error code => pure code
  | .ok args => runJob rt env args

end Job

end KubeRayBatch.Worker
