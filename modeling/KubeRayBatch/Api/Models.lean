/-
# Api.Models -- request and response models

The request types carry their validation: a `CreateBatchRequest` cannot be built
with a model name outside the pattern, an empty or oversized prompt list, or a
token limit out of range.  The response types carry theirs, so that converting a
database row to a `BatchObject` can fail, exactly where pydantic would refuse.
-/
import KubeRayBatch.Runtime

namespace KubeRayBatch.Api

set_option autoImplicit false

/-- The `Literal` of the five lifecycle states. -/
inductive BatchStatus where
  | queued
  | in_progress
  | completed
  | failed
  | cancelled
  deriving DecidableEq, Repr

namespace BatchStatus

def literal : BatchStatus → String
  | .queued => "queued"
  | .in_progress => "in_progress"
  | .completed => "completed"
  | .failed => "failed"
  | .cancelled => "cancelled"

def all : List BatchStatus := [.queued, .in_progress, .completed, .failed, .cancelled]

/-- Validation of the `Literal`: the status with this text. -/
def ofLiteral (s : String) : Option BatchStatus := all.find? fun status => status.literal == s

@[simp] theorem ofLiteral_literal (status : BatchStatus) : ofLiteral status.literal = some status := by
  cases status <;> decide

end BatchStatus

def TERMINAL_STATUSES : List String := ["completed", "failed", "cancelled"]

/-! ## Request -/

/-- One prompt inside a batch request; no other field is admitted. -/
structure BatchInputItem where
  prompt : String
  min_length : 1 ≤ prompt.length
  max_length : prompt.length ≤ 32000

/-- `item.model_dump()` -/
def BatchInputItem.model_dump (item : BatchInputItem) : Theory.Json.Record :=
  [("prompt".toList, .str (.ofText item.prompt.toList))]

/-- The character class of the model pattern: ASCII letters and digits and the
five characters `. _ - / :`. -/
def modelChar (c : Char) : Bool :=
  ('A' ≤ c && c ≤ 'Z') || ('a' ≤ c && c ≤ 'z') || ('0' ≤ c && c ≤ '9') ||
    c == '.' || c == '_' || c == '-' || c == '/' || c == ':'

/-- Body of `POST /v1/batches`. -/
structure CreateBatchRequest where
  model : String
  input : List BatchInputItem
  max_tokens : Nat
  model_min_length : 1 ≤ model.length
  model_max_length : model.length ≤ 128
  model_pattern : ∀ c ∈ model.toList, modelChar c = true
  input_min_length : 1 ≤ input.length
  input_max_length : input.length ≤ 100000
  max_tokens_ge : 1 ≤ max_tokens
  max_tokens_le : max_tokens ≤ 8192

/-! ### The smallest request, for examples -/

def hi : BatchInputItem := ⟨"hi", by decide, by decide⟩

def hiRequest : CreateBatchRequest where
  model := "m"
  input := [hi]
  max_tokens := 16
  model_min_length := by decide
  model_max_length := by decide
  model_pattern := List.all_eq_true.1 rfl
  input_min_length := by decide
  input_max_length := by decide
  max_tokens_ge := by decide
  max_tokens_le := by decide

/-! ## Response -/

/-- Progress counters; validation refuses negative numbers. -/
structure RequestCounts where
  total : Nat
  completed : Nat
  failed : Nat
  deriving DecidableEq, Repr

/-- Response shape of the batch endpoints. -/
structure BatchObject where
  id : String
  model : String
  status : BatchStatus
  created_at : Nat
  completed_at : Option Nat
  request_counts : RequestCounts
  error : Option String
  deriving DecidableEq, Repr

/-- What a pydantic model raises when a field does not validate. -/
def validationError (field : String) : PyException :=
  ⟨⟨"pydantic_core", "ValidationError"⟩, [.builtin "ValueError", .exception, .baseException],
    .ofText field.toList, none⟩

end KubeRayBatch.Api
