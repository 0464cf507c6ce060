/-
# Worker.Command -- the shell that starts a job

Ray hands the entrypoint of a job to a shell, and the model name stands in it unquoted.
The characters that a request admits in a model name mean nothing to the shell in any
position, so the line is one simple command of eight words.

* `no_shell_injection`: the words of the entrypoint are literally the ones that were
  formatted.
-/
import KubeRayBatch.Theory.Shell
import KubeRayBatch.Worker.Arguments

namespace KubeRayBatch.Worker

open Theory Cluster Api

set_option autoImplicit false

/-- The words of the command that starts a job. -/
def entrypointWords (u : Ulid) (request : CreateBatchRequest) : List Text :=
  ["python".toList, "/app/jobs/batch_infer.py".toList, "--batch-id".toList, (newBatchId u).toList,
    "--model".toList, request.model.toList, "--max-tokens".toList,
    (toString request.max_tokens).toList]

theorem entrypoint_joined (u : Ulid) (request : CreateBatchRequest) :
    (entrypointOf (newBatchId u) request.model request.max_tokens).toList =
      Shell.joined (entrypointWords u request) :=
  entrypoint_spelled u request

/-- A character that may stand in an argument means nothing to the shell. -/
theorem plain_not_special {c : Char} (isPlain : plain c = true) : c ∉ Shell.specials := by
  intro special
  have none : Shell.specials.all (fun c => !plain c) = true := by decide
  have notPlain := List.all_eq_true.1 none c special
  rw [isPlain] at notPlain
  cases notPlain

theorem bare_of_plain {word : Text} (nonempty : word ≠ []) (isPlain : ∀ c ∈ word, plain c = true) :
    Shell.Bare word :=
  ⟨nonempty, fun c mem => plain_not_special (isPlain c mem)⟩

theorem entrypointWords_bare (u : Ulid) (request : CreateBatchRequest) :
    ∀ word ∈ entrypointWords u request, Shell.Bare word := by
  have fixed : ∀ word ∈ ["python".toList, "/app/jobs/batch_infer.py".toList, "--batch-id".toList,
      "--model".toList, "--max-tokens".toList], Shell.Bare word := by
    intro word mem
    have all : ["python".toList, "/app/jobs/batch_infer.py".toList, "--batch-id".toList,
        "--model".toList, "--max-tokens".toList].all
          (fun word => !word.isEmpty && word.all plain) = true := by decide
    have each := List.all_eq_true.1 all word mem
    simp only [Bool.and_eq_true, Bool.not_eq_true', List.isEmpty_eq_false_iff, List.all_eq_true] at each
    exact bare_of_plain each.1 each.2
  intro word mem
  simp only [entrypointWords, List.mem_cons, List.not_mem_nil, or_false] at mem
  rcases mem with rfl | rfl | rfl | rfl | rfl | rfl | rfl | rfl
  · exact fixed _ (by simp)
  · exact fixed _ (by simp)
  · exact fixed _ (by simp)
  · exact bare_of_plain (by simp [newBatchId]) (plain_newBatchId u)
  · exact fixed _ (by simp)
  · exact bare_of_plain (model_nonempty request) fun c mem =>
      plain_of_modelChar (request.model_pattern c mem)
  · exact fixed _ (by simp)
  · rw [Decimal.toList_toString]
    exact bare_of_plain (Decimal.chars_ne_nil _) (plain_digits request.max_tokens)

/-- **key theorem.** The shell cuts an entrypoint into eight words of plain characters and
nothing else, and reads it as the simple command of these words. -/
theorem no_shell_injection (u : Ulid) (request : CreateBatchRequest) :
    Shell.tokenize (entrypointOf (newBatchId u) request.model request.max_tokens).toList =
        some ((entrypointWords u request).map Shell.bareToken) ∧
      Shell.command ((entrypointWords u request).map Shell.bareToken) =
        some (entrypointWords u request) := by
  have bare := entrypointWords_bare u request
  constructor
  · rw [entrypoint_joined]
    exact Shell.tokenize_bare bare
  · exact Shell.command_bare bare (by decide)

end KubeRayBatch.Worker
