/-
# Cluster.RunningJob -- the process of a job among everybody else

A job that Ray has started and that has not exited is the only one to change its
directory.  So the outline of `main` holds here as it does for a run on its own, and
the exit status 0 comes with the whole output in place.
-/
import KubeRayBatch.Cluster.Sharing

namespace KubeRayBatch.Cluster

open Theory Api Worker

set_option autoImplicit false

variable {D : Deployment} {A : Assumed} {pid : Nat} {b id entrypoint : String}

/-- Process `pid` runs the job of the batch. -/
def Runs (pid : Nat) (id entrypoint : String) (v : View) : Prop :=
  ∃ job, v.job = some job ∧ job.runner = some pid ∧ job.exit_code = none ∧
    job.submission_id = id ∧ job.entrypoint = entrypoint

theorem stable_runs (P : Dir → Prop) :
    StableView D A (.worker pid) b fun v => Runs pid id entrypoint v ∧ P v.dir := by
  rintro a now v v' other sound changed ⟨⟨job, submitted, runs, running, same⟩, holds⟩
  have here : Runs pid id entrypoint v := ⟨job, submitted, runs, running, same⟩
  have stranger : ∀ pid', a = .worker pid' → some pid ≠ some pid' := by
    rintro pid' rfl isMe
    cases isMe
    exact other.1 rfl
  cases changed with
  | issue | attach | mark | poll => exact ⟨here, holds⟩
  | input a dir owned unborn | insert a u request path owned unborn =>
      rw [sound.jobless unborn] at submitted
      cases submitted
  | submit a row id env owned found unattached unsubmitted =>
      rw [unsubmitted] at submitted
      cases submitted
  | start a job' submitted' idle =>
      cases submitted.symm.trans submitted'
      rw [runs] at idle
      cases idle
  | work a job' dir submitted' runs' | exit a job' code submitted' runs' =>
      cases submitted.symm.trans submitted'
      exact absurd (runs.symm.trans runs') (stranger a rfl)
  | report job' status submitted' =>
      cases submitted.symm.trans submitted'
      exact ⟨⟨_, rfl, runs, running, same⟩, holds⟩

/-- The row of a running job is there, and so is its input file. -/
theorem input_present {now : Nat} {v : View} (sound : Sound D A b now v) (runs : Runs pid id entrypoint v) :
    ∃ row u request, v.row = some row ∧ Posted u request b v.dir row := by
  obtain ⟨job, submitted, -⟩ := runs
  obtain ⟨row, found⟩ := sound.job_row submitted
  obtain ⟨u, request, posted⟩ := (sound.row row found).origin
  exact ⟨row, u, request, found, posted⟩

theorem worker_expects {op : Op} {w : World} (inv : Inv D A w) (runs : Runs pid id entrypoint (view w b))
    (own : ∀ b' d, op = .dir b' d → b' = b) : Expected A (.worker pid) op w := by
  unfold Expected
  split
  case h_4 _ b' same =>
    obtain rfl := own b' _ rfl
    obtain ⟨row, u, request, found, posted⟩ := input_present (inv.sound b') runs
    rw [posted.input]
    rfl
  all_goals trivial

/-- The line with which `main` handles an exception without a text. -/
theorem silentLine_failure (u : Ulid) :
    silentLine ("Batch " ++ newBatchId u ++ " FAILED: " ++ "") = true := by
  have length : ("Batch " ++ newBatchId u).toList.length = 38 := by
    rw [String.length_toList, newBatchId, String.length_append, String.length_append, u.length]
    rfl
  have starts : "Batch ".toList.isPrefixOf ("Batch " ++ newBatchId u ++ " FAILED: ").toList = true := by
    rw [List.isPrefixOf_iff_prefix, String.toList_append, String.toList_append, List.append_assoc]
    exact List.prefix_append _ _
  unfold silentLine
  rw [String.append_empty, starts, String.toList_append, ← length, List.drop_left]
  rfl

theorem worker_contract :
    JobContract D.rt (fun _ _ => True) A.Speaks b (contract D A (.worker pid))
      fun w => Runs pid id entrypoint (view w b) where
  stable := fun P => (stable_runs P).stable
  allowed := fun _ _ inv runs own => worker_expects inv runs own
  quiet := by
    intro w w' inv runs quiet
    refine ⟨inv.quiet quiet, Move.quiet quiet, ?_⟩
    rw [quiet.view b]
    exact runs
  move := by
    intro w d inv runs stepped
    obtain ⟨job, submitted, isRunner, running, same⟩ := runs
    have changed : Change D A b w.clock (.worker pid) (view w b) (view (w.setDir b d) b) := by
      rw [view_setDir]
      exact .work pid job d submitted isRunner running stepped
    have touches := touches_setDir w b d
    refine ⟨inv.jobs_same touches changed inv.keyed rfl, ⟨b, .change touches changed⟩, ?_⟩
    rw [view_setDir]
    exact ⟨job, submitted, isRunner, running, same⟩
  granted := fun _ _ _ _ _ _ _ _ _ => trivial
  said := by
    intro w message inv runs granted spoken
    rintro rfl
    obtain ⟨row, u, request, -, posted⟩ := input_present (inv.sound b) runs
    have line : silentLine ("Batch " ++ b ++ " FAILED: " ++ shown []) = true := by
      rw [posted.id]
      exact silentLine_failure u
    have granted' : (!A.spoken || !silentLine ("Batch " ++ b ++ " FAILED: " ++ shown [])) = true :=
      granted
    rw [spoken, line] at granted'
    cases granted'

/-- The words of an entrypoint determine the model and the token limit. -/
theorem entrypointOf_injective {u : Ulid} {request request' : CreateBatchRequest}
    (same : entrypointOf (newBatchId u) request.model request.max_tokens =
      entrypointOf (newBatchId u) request'.model request'.max_tokens) :
    request.model = request'.model ∧ request.max_tokens = request'.max_tokens := by
  have words := (argv_entrypoint u request).symm.trans (same ▸ argv_entrypoint u request')
  simp only [Option.some.injEq, List.cons.injEq, and_true, true_and, String.toList_inj] at words
  exact ⟨words.1, toString_injective words.2⟩

/-- **key theorem.** The process of a job keeps its contract from a fresh directory on,
and exits with status 0 only when the whole output of its row is there. -/
theorem main_outline {u : Ulid} {request : CreateBatchRequest} {argv : List Text}
    (entered : jobArgv (entrypointOf (newBatchId u) request.model request.max_tokens) = some argv) :
    Contract.Outline (machine D.rd pid) (contract D A (.worker pid)) (main D.rt D.environ argv)
      (fun w => Runs pid id (entrypointOf (newBatchId u) request.model request.max_tokens)
        (view w (newBatchId u)) ∧ Fresh (w.dirs (newBatchId u)))
      (fun code w => Runs pid id (entrypointOf (newBatchId u) request.model request.max_tokens)
          (view w (newBatchId u)) ∧
        (code = 0 → ∀ row, (view w (newBatchId u)).row = some row →
          ∃ counts, Output D (newBatchId u) row counts (w.dirs (newBatchId u))))
      fun _ w => Runs pid id (entrypointOf (newBatchId u) request.model request.max_tokens)
        (view w (newBatchId u)) := by
  have parsed := parse_job D.environ.DEFAULT_MODEL u request
  rw [entered, Option.map_some, Option.some.injEq] at parsed
  unfold main
  by_cases value : parseOptional request.model.toList = .ok none
  · rw [if_pos value] at parsed
    rw [parsed]
    have outline : ∀ input : Option Text, DirOutline D.rd pid (newBatchId u)
        (contract D A (.worker pid))
        (fun w => Runs pid id (entrypointOf (newBatchId u) request.model request.max_tokens)
          (view w (newBatchId u)))
        (runJob D.rt D.environ ⟨newBatchId u, request.model, request.max_tokens⟩)
        (fun d => d.file .input = input ∧ d.staging.getD [] = []) _ :=
      fun input => runJob_outline worker_contract
    refine Contract.Outline.pre (Contract.Outline.exists_elim fun (input : Option Text) =>
      Contract.Outline.weaken (outline input)
        (fun _ _ holds => holds) ?_ fun _ _ _ runs => runs) ?_
    · rintro code w inv ⟨runs, finished⟩
      refine ⟨runs, fun isZero row found => ?_⟩
      obtain ⟨o, counts, -, left⟩ := finished isZero
      obtain ⟨job, submitted, -, -, -, isEntrypoint⟩ := runs
      -- the arguments of the job are those of the row
      have sound := inv.sound (newBatchId u)
      obtain ⟨u', request', posted⟩ := (sound.row row found).origin
      obtain rfl : u = u' := newBatchId_injective posted.id
      have entrypoint := (sound.job row job found submitted).entrypoint
      rw [isEntrypoint, posted.model, posted.max_tokens] at entrypoint
      obtain ⟨model, max_tokens⟩ := entrypointOf_injective entrypoint
      refine ⟨counts, o, ?_⟩
      rw [posted.model, posted.max_tokens, ← model, ← max_tokens]
      exact left
    · rintro w - ⟨runs, fresh⟩
      exact ⟨(w.dirs (newBatchId u)).file .input, runs, rfl, by rw [fresh.staging]; rfl⟩
  · rw [if_neg value] at parsed
    rw [parsed]
    refine Contract.Outline.ret fun w _ holds => ⟨holds.1, fun isZero => ?_⟩
    exact absurd isZero (by decide)

end KubeRayBatch.Cluster
