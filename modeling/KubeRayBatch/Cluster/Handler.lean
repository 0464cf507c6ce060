/-
# Cluster.Handler -- a request among everybody else

`create_batch` writes the input file, commits the row, submits the job and notes its
id, in this order, and may be stopped between any two steps.  Until the row is there
nobody else touches the batch (`Unborn`); until the job id is noted nobody else touches
the row (`Waiting`).  So the row it inserted is there whenever it looks for it.
-/
import KubeRayBatch.Cluster.Sharing

namespace KubeRayBatch.Cluster

open Theory Api Worker

set_option autoImplicit false

variable {D : Deployment} {A : Assumed} {pid : Nat} {b : String}

/-! ## What nobody else changes -/

/-- The batch is ours and has no row yet. -/
def Unborn (pid : Nat) (φ : Dir → Prop) (v : View) : Prop :=
  v.owner = some pid ∧ v.row = none ∧ φ v.dir

/-- The row is ours until a job id is noted in it; `φ` may speak of it and of the id of
the submitted job. -/
def Waiting (pid : Nat) (φ : Batch → Option String → Prop) (v : View) : Prop :=
  v.owner = some pid ∧ ∃ row, v.row = some row ∧ row.ray_job_id = none ∧ row.status = "queued" ∧
    φ row (v.job.map (·.submission_id))

theorem not_owner {a pid' : Nat} {v : View} (other : Other A (.handler pid) (.handler a))
    (owned : v.owner = some pid) (owned' : v.owner = some pid') (same : pid' = a) : False := by
  rw [owned] at owned'
  cases owned'
  exact other.1 (by rw [same])

theorem stable_unborn (φ : Dir → Prop) : StableView D A (.handler pid) b (Unborn pid φ) := by
  rintro a now v v' other sound changed ⟨owned, unborn, holds⟩
  cases changed with
  | issue a unowned => rw [owned] at unowned; cases unowned
  | input a dir owned' => exact (not_owner other owned owned' rfl).elim
  | insert a u request input_path owned' => exact (not_owner other owned owned' rfl).elim
  | submit a row id env owned' => exact (not_owner other owned owned' rfl).elim
  | attach a row job updated owned' => exact (not_owner other owned owned' rfl).elim
  | mark a row error ended updated owned' => exact (not_owner other owned owned' rfl).elim
  | start a job submitted | work a job dir submitted | exit a job code submitted
  | report job status submitted =>
      rw [sound.jobless unborn] at submitted
      cases submitted
  | poll a row row' found => rw [unborn] at found; cases found

theorem stable_waiting (φ : Batch → Option String → Prop) :
    StableView D A (.handler pid) b (Waiting pid φ) := by
  rintro a now v v' other sound changed ⟨owned, row, found, unattached, queued, holds⟩
  cases changed with
  | issue a unowned => rw [owned] at unowned; cases unowned
  | input a dir owned' => exact (not_owner other owned owned' rfl).elim
  | insert a u request input_path owned' => exact (not_owner other owned owned' rfl).elim
  | submit a row id env owned' => exact (not_owner other owned owned' rfl).elim
  | attach a row job updated owned' => exact (not_owner other owned owned' rfl).elim
  | mark a row error ended updated owned' => exact (not_owner other owned owned' rfl).elim
  | start a job submitted | exit a job code submitted | report job status submitted =>
      rw [submitted] at holds
      exact ⟨owned, row, found, unattached, queued, holds⟩
  | work a job dir => exact ⟨owned, row, found, unattached, queued, holds⟩
  | poll a row' row'' found' polled =>
      rw [found] at found'
      cases found'
      exact absurd unattached polled.attached

theorem Waiting.mono {φ ψ : Batch → Option String → Prop} {v : View} (waiting : Waiting pid φ v)
    (weaker : ∀ row id, φ row id → ψ row id) : Waiting pid ψ v :=
  let ⟨owned, row, found, unattached, queued, holds⟩ := waiting
  ⟨owned, row, found, unattached, queued, weaker row _ holds⟩

theorem Waiting.present {φ : Batch → Option String → Prop} {v : View} (waiting : Waiting pid φ v) :
    v.row.isSome = true :=
  let ⟨_, row, found, _⟩ := waiting
  Option.isSome_iff_exists.2 ⟨row, found⟩

/-! ## The input file -/

theorem fresh_of_unborn {now : Nat} {v : View} (sound : Sound D A b now v) (unborn : v.row = none) :
    Fresh v.dir :=
  sound.fresh fun job submitted => by rw [sound.jobless unborn] at submitted; cases submitted

/-- An operation on the directory of a batch that has no row yet. -/
theorem unborn_dir {op : DirOp} {φ : Dir → Prop} {ψ : op.Res → Dir → Prop} {α : Type}
    {f : op.Res → Proc α} {Q : α → View → Prop}
    (fresh : ∀ c d a d', Fresh d → φ d → op.exec D.rd c d = some (a, d') → Fresh d' ∧ ψ a d')
    (rest : ∀ a, Follows D A (.handler pid) pid b (f a) (Unborn pid (ψ a)) Q fun _ => True) :
    Follows D A (.handler pid) pid b ((ask (.dir b op)).bind f) (Unborn pid φ) Q fun _ => True := by
  refine Follows.write (o := .dir b op) (R := fun (a : op.Res) => Unborn pid (ψ a))
    (fun a => stable_unborn (ψ a)) stable_true (fun _ _ _ => trivial) (fun _ _ _ _ => trivial)
    (does_dir ?_) rest
  rintro now v c a d sound ⟨owned, unborn, holds⟩ performed
  obtain ⟨fresh', holds'⟩ := fresh c v.dir a d (fresh_of_unborn sound unborn) holds performed
  exact ⟨.input pid d owned unborn fresh', ⟨owned, unborn, holds'⟩, trivial⟩

/-- Text is appended to the input file. -/
theorem writeText_follows (before text : Text) :
    Follows D A (.handler pid) pid b (writeText b .input text)
      (Unborn pid fun d => d.file .input = some before)
      (fun _ => Unborn pid fun d => d.file .input = some (before ++ text)) fun _ => True := by
  refine (Follows.pieces
    (I := fun written => Unborn pid fun d => d.file .input = some (before ++ written)) ?_).pre ?_
  · intro written c rest _
    have one : ask (.dir b (.append .input [c])) =
        (ask (.dir b (.append .input [c]))).bind .ret := (Program.bind_ret _).symm
    rw [one]
    refine unborn_dir (ψ := fun _ d => d.file .input = some (before ++ (written ++ [c]))) ?_
      fun _ => Follows.ret fun _ _ _ holds => holds
    intro choice d a d' fresh holds performed
    simp only [DirOp.exec, holds, Option.map_some] at performed
    cases performed
    exact ⟨fresh.setInput _, by simp⟩
  · rintro now v - ⟨owned, unborn, holds⟩
    exact ⟨owned, unborn, by rw [List.append_nil]; exact holds⟩

/-- **The input file** is complete when `write_inputs_jsonl` returns. -/
theorem write_inputs_follows (root : String) (items : List Json.Record) :
    Follows D A (.handler pid) pid b (write_inputs_jsonl root b items) (Unborn pid fun _ => True)
      (fun _ => Unborn pid fun d => d.file .input = some (inputText items)) fun _ => True := by
  unfold write_inputs_jsonl
  by_cases empty : items.isEmpty = true
  · rw [if_pos empty]
    exact Follows.raise fun _ _ _ _ => trivial
  · rw [if_neg empty]
    refine unborn_dir (ψ := fun _ _ => True) ?_ fun _ => ?_
    · rintro c d a d' fresh - performed
      cases performed
      exact ⟨⟨fresh.staging, fresh.results, fresh.success, fresh.failed⟩, trivial⟩
    refine unborn_dir (ψ := fun _ d => d.file .input = some []) ?_ fun _ => ?_
    · rintro c d a d' fresh - performed
      obtain ⟨-, same⟩ := Option.ite_none_right_eq_some.1 performed
      cases same
      exact ⟨fresh.setInput _, Dir.setFile_same d .input (some [])⟩
    refine Follows.bind (R := fun _ => Unborn pid fun d => d.file .input = some (inputText items)) ?_
      fun _ => Follows.ret fun _ _ _ holds => holds
    refine Follows.pieces (I := fun written => Unborn pid fun d =>
      d.file .input = some (written.flatMap fun (item, idx) => inputLine idx item)) ?_
    rintro written ⟨item, idx⟩ rest -
    refine (writeText_follows (written.flatMap fun (item, idx) => inputLine idx item)
      (inputLine idx item)).weaken (fun _ _ _ holds => holds) ?_ fun _ _ _ holds => holds
    rintro now _ v - ⟨owned, unborn, holds⟩
    exact ⟨owned, unborn, by simpa using holds⟩

/-! ## The row and the job -/

/-- What a handler knows of the row it inserted, and the id of the submitted job. -/
def Ours (request : CreateBatchRequest) (id : Option String) (row : Batch) (submitted : Option String) :
    Prop :=
  row.model = request.model ∧ row.max_tokens = request.max_tokens ∧ submitted = id

theorem insert_follows (u : Ulid) (request : CreateBatchRequest) (input_path : String) :
    Follows D A (.handler pid) pid (newBatchId u)
      (session_scope (pure (.insert (newRow D.settings request (newBatchId u) input_path), ())))
      (Unborn pid fun d => d.file .input = some (inputText (request.input.map (·.model_dump))))
      (fun _ => Waiting pid (Ours request none)) fun _ => True := by
  let new := newRow D.settings request (newBatchId u) input_path
  refine Follows.session (R := fun said v => said = (.insert new, ()) ∧ Unborn pid (fun d =>
      d.file .input = some (inputText (request.input.map (·.model_dump)))) v)
    (stable_unborn _) stable_true (fun _ _ _ _ => trivial)
    (Follows.ret fun _ _ _ holds => ⟨rfl, holds⟩) ?_
  rintro ⟨pending, result⟩
  refine Follows.const_elim fun said => ?_
  cases said
  refine Follows.writes (o := .commit (.insert new)) (fun _ => stable_waiting _) stable_true
    (fun _ _ _ => trivial) (fun _ _ _ _ => trivial) (does_insert rfl ?_)
  rintro now v sound ⟨owned, unborn, input⟩
  refine ⟨.insert pid u request input_path owned unborn rfl input, ?_, trivial⟩
  refine ⟨owned, new.row now, rfl, rfl, rfl, rfl, rfl, ?_⟩
  show v.job.map (·.submission_id) = none
  rw [sound.jobless unborn]
  rfl

theorem submit_follows (u : Ulid) (request : CreateBatchRequest) (env : Option RuntimeEnv) :
    Follows D A (.handler pid) pid (newBatchId u)
      (submit_batch (entrypointOf (newBatchId u) request.model request.max_tokens) env)
      (Waiting pid (Ours request none)) (fun id => Waiting pid (Ours request (some id)))
      (Waiting pid fun _ _ => True) := by
  let entrypoint := entrypointOf (newBatchId u) request.model request.max_tokens
  have anyway : ∀ (id : Option String) now v, Sound D A (newBatchId u) now v →
      Waiting pid (Ours request id) v → Waiting pid (fun _ _ => True) v :=
    fun _ _ _ _ waiting => waiting.mono fun _ _ _ => trivial
  refine Follows.read (o := .client_ready) (R := fun _ => Waiting pid (Ours request none))
    (fun _ => stable_waiting _) (stable_waiting _) (fun _ _ _ => trivial) (anyway none)
    (idle_quiet rfl) (fun _ _ _ _ _ holds _ => holds) fun (ready : Bool) => ?_
  cases ready with
  | false => exact Follows.raise (anyway none)
  | true =>
      refine Follows.write (o := .submit_job entrypoint (env.getD []))
        (R := fun (id : String) => Waiting pid (Ours request (some id)))
        (fun _ => stable_waiting _) (stable_waiting _) (fun _ _ _ => trivial) (anyway none)
        (does_submit (batchWord_entrypoint u request) ?_) fun (id : String) => ?_
      · rintro now v id sound ⟨owned, row, found, unattached, queued, model, max_tokens, noId⟩
        have unsubmitted : v.job = none := Option.map_eq_none_iff.1 noId
        have changed : Change D A (newBatchId u) now (.handler pid) v
            { v with job := some (submittedJob id entrypoint (env.getD [])) } := by
          have same : entrypoint = entrypointOf (newBatchId u) row.model row.max_tokens := by
            rw [model, max_tokens]
          rw [same]
          exact .submit pid row id (env.getD []) owned found unattached unsubmitted
        refine ⟨unsubmitted, changed, ?_, owned, row, found, unattached, queued, trivial⟩
        exact ⟨owned, row, found, unattached, queued, model, max_tokens, rfl⟩
      · exact Follows.pass (o := .log .info ("ray_client: submitted " ++ id)) (idle_quiet rfl)
          (stable_waiting _) (stable_waiting _) (fun _ => trivial) (anyway (some id)) fun _ =>
            Follows.ret fun _ _ _ holds => holds

/-! ## The two updates of a handler -/

theorem assigned_marked (row : Batch) (error : String) (ended now : Nat) :
    row.assigned
        { row with status := "failed", error := some error, completed_at := some ended } now =
      markedRow row error ended (row.assigned
        { row with status := "failed", error := some error, completed_at := some ended }
        now).updated_at := by
  simp [Batch.assigned, Batch.changes, Changes.apply, markedRow]

theorem assigned_attached (row : Batch) (id : String) (now : Nat) :
    row.assigned { row with ray_job_id := some id } now =
      attachedRow row id (row.assigned { row with ray_job_id := some id } now).updated_at := by
  simp [Batch.assigned, Batch.changes, Changes.apply, attachedRow]

theorem mark_failed_follows {error : String} (text : error ≠ "") :
    Follows D A (.handler pid) pid b (_mark_failed b error) (Waiting pid fun _ _ => True)
      (fun _ _ => True) fun _ => True := by
  let changes (row : Batch) (now : Nat) : Changes := row.changes
    { row with status := "failed", error := some error, completed_at := some now }
  refine Follows.transaction (Z := fun _ => True)
    (L := fun row => Waiting pid fun row' _ => row' = row)
    (S := fun row pending v => ∃ t, pending = .update b (changes row t) ∧
      Waiting pid (fun row' _ => row' = row ∧ (A.clock = true → row.created_at ≤ t)) v)
    (stable_waiting _) (fun _ => stable_waiting _) stable_true (fun _ _ _ _ => trivial)
    (fun _ present => present) (fun _ waiting => waiting.present) ?_ ?_ ?_
  · rintro v row ⟨owned, row', found, unattached, queued, -⟩ found'
    exact ⟨owned, row', found, unattached, queued, Option.some.inj (found.symm.trans found')⟩
  · intro row
    refine Follows.read (o := .utcnow) (R := fun (t : Nat) => Waiting pid fun row' _ =>
        row' = row ∧ (A.clock = true → row.created_at ≤ t))
      (fun _ => stable_waiting _) stable_true (fun _ _ _ => trivial) (fun _ _ _ _ => trivial)
      (idle_quiet rfl) ?_ fun (t : Nat) => Follows.ret fun _ v _ holds => ⟨t, rfl, holds⟩
    rintro c w t w' inv ⟨owned, row', found, unattached, queued, rfl⟩ executed
    cases executed
    exact ⟨owned, row', found, unattached, queued, rfl, ((inv.sound b).row row' found).created⟩
  · intro row pending
    refine Follows.exists_elim fun t => Follows.const_elim fun said => ?_
    subst said
    refine Follows.writes (o := .commit (.update b (changes row t))) (fun _ => stable_true) stable_true
      (fun _ _ _ => trivial) (fun _ _ _ _ => trivial) (does_update ?_)
    rintro now v - ⟨owned, row', found, unattached, queued, rfl, dated⟩
    refine ⟨row', found, ?_, trivial, trivial⟩
    show Change D A b now _ v { v with row := some (row'.assigned _ now) }
    rw [assigned_marked]
    exact .mark pid row' error t _ owned found unattached queued dated text

theorem attach_follows (request : CreateBatchRequest) (id : String) :
    Follows D A (.handler pid) pid b (_attach_ray_job_id b id) (Waiting pid (Ours request (some id)))
      (fun _ v => v.row.isSome = true) fun _ => True := by
  refine Follows.transaction (Z := fun v => v.row.isSome = true)
    (L := fun row => Waiting pid fun row' submitted => row' = row ∧ submitted = some id)
    (S := fun row pending v => pending = .update b (row.changes { row with ray_job_id := some id }) ∧
      Waiting pid (fun row' submitted => row' = row ∧ submitted = some id) v)
    (stable_waiting _) (fun _ => stable_waiting _) stable_true (fun _ _ _ _ => trivial)
    (fun _ present => present) (fun _ waiting => waiting.present) ?_
    (fun row => Follows.ret fun _ _ _ holds => ⟨rfl, holds⟩) ?_
  · rintro v row ⟨owned, row', found, unattached, queued, -, -, isId⟩ found'
    exact ⟨owned, row', found, unattached, queued, Option.some.inj (found.symm.trans found'), isId⟩
  · intro row pending
    refine Follows.const_elim fun said => ?_
    subst said
    refine Follows.writes (o := .commit (.update b _)) (fun _ => stable_present) stable_true
      (fun _ _ _ => trivial) (fun _ _ _ _ => trivial) (does_update ?_)
    rintro now v - ⟨owned, row', found, unattached, queued, rfl, isId⟩
    obtain ⟨job, submitted, rfl⟩ := Option.map_eq_some_iff.1 isId
    refine ⟨row', found, ?_, rfl, trivial⟩
    show Change D A b now _ v { v with row := some (row'.assigned _ now) }
    rw [assigned_attached]
    exact .attach pid row' job _ owned found unattached queued submitted

/-! ## The whole request -/

/-- The answer to a request is read from the row, which is there. -/
theorem attachSubmitted_follows (request : CreateBatchRequest) (id : String) :
    Follows D A (.handler pid) pid b (attachSubmitted request b id)
      (Waiting pid (Ours request (some id))) (fun _ _ => True) fun _ => True := by
  refine Follows.bind (attach_follows request id) fun _ => ?_
  refine Follows.pass (o := .inc (.batch_submitted_total request.model)) (idle_quiet rfl)
    stable_present stable_true (fun _ => by trivial) (fun _ _ _ _ => trivial) fun _ => ?_
  refine Follows.bind (R := fun _ _ => True) ?_ fun (refreshed : Option Batch) => ?_
  · refine Follows.session (R := fun said _ => said.1 = .clean) stable_present stable_true
      (fun _ _ _ _ => trivial) ?_ ?_
    · exact Follows.read (o := .get_batch b) (R := fun _ _ => True) (fun _ => stable_true) stable_true
        (fun _ _ present => present) (fun _ _ _ _ => trivial) (idle_quiet rfl)
        (fun _ _ _ _ _ _ _ => trivial) fun _ => Follows.ret fun _ _ _ _ => rfl
    · rintro ⟨pending, result⟩
      refine (Follows.const_elim (K := fun _ => True) fun clean => ?_).pre fun _ _ _ clean =>
        ⟨clean, trivial⟩
      cases clean
      exact Follows.reads stable_true stable_true (fun _ _ _ => trivial) (fun _ _ _ _ => trivial)
        idle_clean
  · cases refreshed with
    | none =>
        exact Follows.pass (o := .log .error ("create_batch: row vanished after insert: " ++ b))
          (idle_quiet rfl) stable_true stable_true (fun _ => by trivial) (fun _ _ _ _ => trivial)
          fun _ => Follows.raise fun _ _ _ _ => trivial
    | some row => exact Follows.lift (fun _ _ _ _ _ _ => trivial) fun _ _ _ _ => trivial

/-- The error of a batch that could not be submitted. -/
theorem submission_text (exc : PyException) : "Ray submission failed: " ++ exc.typeName ≠ "" := by
  intro empty
  have chars := congrArg String.toList empty
  simp [String.toList_append] at chars

theorem submitFailed_follows (exc : PyException) {Q : String → View → Prop} :
    Follows D A (.handler pid) pid b (submitFailed b exc) (Waiting pid fun _ _ => True) Q
      fun _ => True := by
  refine Follows.pass (o := .log .warning _) (idle_quiet rfl) (stable_waiting _) stable_true
    (fun _ => trivial) (fun _ _ _ _ => trivial) fun _ => ?_
  refine Follows.pass (o := .inc _) (idle_quiet rfl) (stable_waiting _) stable_true
    (fun _ => trivial) (fun _ _ _ _ => trivial) fun _ => ?_
  exact Follows.bind (mark_failed_follows (submission_text exc)) fun _ => Follows.raise fun _ _ _ _ => trivial

theorem submitInserted_follows (u : Ulid) (request : CreateBatchRequest) :
    Follows D A (.handler pid) pid (newBatchId u) (submitInserted D.settings request (newBatchId u))
      (Waiting pid (Ours request none)) (fun _ _ => True) fun _ => True := by
  refine Follows.bind (R := fun id => Waiting pid (Ours request (some id))) ?_ fun id =>
    attachSubmitted_follows request id
  refine Follows.catching (submit_follows u request _) fun exc => ?_
  by_cases caught : (exc.isinstance .connectionError || exc.isinstance .runtimeError) = true
  · rw [if_pos caught]
    exact submitFailed_follows exc
  · rw [if_neg caught]
    exact Follows.raise fun _ _ _ _ => trivial

/-- Drawing an id makes a batch ours. -/
theorem ulid_atomic : Contract.Atomic (machine D.rd pid) (contract D A (.handler pid)) .ulid
    (fun _ => True) (fun (u : Ulid) w => Unborn pid (fun _ => True) (view w (newBatchId u)))
    fun (_ : PyException) _ => True where
  stableDone := fun _ => (stable_unborn _).stable
  stableFailed := fun _ => Contract.stable_const True
  allowed := fun _ _ _ => trivial
  done := by
    intro w c (u : Ulid) w' inv _ _ executed
    obtain ⟨unowned, becomes, touches⟩ := view_ulid D.rd pid executed
    have changed : Change D A (newBatchId u) w.clock (.handler pid) (view w (newBatchId u))
        (view w' (newBatchId u)) := becomes ▸ .issue pid unowned
    have unborn := (inv.sound (newBatchId u)).unowned unowned
    obtain ⟨-, rfl⟩ := ulid_exec D.rd pid executed
    refine ⟨inv.jobs_same touches changed inv.keyed rfl, ⟨_, .change touches changed⟩, ?_,
      fun _ _ => trivial⟩
    rw [becomes]
    exact ⟨rfl, unborn, trivial⟩
  refused := fun _ _ _ _ _ => trivial

/-- **key theorem.** A request keeps its contract, from any world. -/
theorem create_batch_outline (request : CreateBatchRequest) :
    Contract.Outline (machine D.rd pid) (contract D A (.handler pid))
      (create_batch D.settings request) (fun _ => True) (fun _ _ => True) fun _ _ => True := by
  refine Contract.Outline.bind (R := fun b w => ∃ u, b = newBatchId u ∧
    Unborn pid (fun _ => True) (view w (newBatchId u))) ?_ fun b => ?_
  · exact Contract.Outline.ask ulid_atomic (fun _ _ _ _ => trivial) fun (u : Ulid) =>
      Contract.Outline.ret fun _ _ unborn => ⟨u, rfl, unborn⟩
  refine Contract.Outline.exists_elim fun u => Contract.Outline.const_elim fun isBatch => ?_
  subst isBatch
  refine Follows.outline (K := Unborn pid fun _ => True) (Q := fun _ _ => True) (X := fun _ => True) ?_
  refine Follows.pass (o := .log .info _) (idle_quiet rfl) (stable_unborn _) stable_true
    (fun _ => trivial) (fun _ _ _ _ => trivial) fun _ => ?_
  refine Follows.bind (write_inputs_follows _ _) fun input_path => ?_
  exact Follows.bind (insert_follows u request input_path) fun _ => submitInserted_follows u request

end KubeRayBatch.Cluster
