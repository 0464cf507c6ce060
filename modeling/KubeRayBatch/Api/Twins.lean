/-
# Api.Twins -- what the handlers make of the prompts

The texts of the prompts reach one operation: the write to the input file.  `redacted` is
the world without these files.

* `exec_redacted`: the other operations of the API do the same without them;
* `create_twin`: two requests of one shape make `create_batch` do the same, but for the
  writes to the input file.
-/
import KubeRayBatch.Theory.TwoRuns
import KubeRayBatch.Api.Batches

namespace KubeRayBatch.Api

open Theory Cluster

set_option autoImplicit false

/-! ## What is public -/

/-- The world without the input files. -/
def redacted (w : World) : World :=
  { w with dirs := fun b => (w.dirs b).setFile .input none }

/-- The operations of the API that neither read an input file nor add to it. -/
def Blind : Op → Prop
  | .dir _ (.exists f) => f ≠ .input
  | .dir _ (.read_text f) => f ≠ .input
  | .dir _ .mkdir => True
  | .dir _ (.create f) => f = .input
  | .dir _ _ => False
  | _ => True

/-- Writing a piece of an input file. -/
def writesInput : Op → Bool
  | .dir _ (.append .input _) => true
  | _ => false

def prompts : Secrecy Op where
  secret := writesInput
  blind := Blind
  idle op := op = .open_session
  disjoint op blind := by
    cases op with
    | dir b d => cases d <;> first | rfl | exact blind.elim
    | _ => rfl

@[simp] theorem setFile_setFile (d : Dir) (f : FileName) (content content' : Option Text) :
    (d.setFile f content).setFile f content' = d.setFile f content' := by
  simp [Dir.setFile]

@[simp] theorem redacted_redacted (w : World) : redacted (redacted w) = redacted w := by
  simp [redacted, Dir.setFile]

/-- Operations elsewhere do not depend on the directories. -/
theorem exec_elsewhere {rd : RayData} {pid : Nat} {op : Op} (elsewhere : ∀ b d, op ≠ .dir b d)
    {c : Choice} {w v : World} {a : op.Res} (executed : exec rd pid op c w = some (a, v))
    (dirs : String → Dir) :
    exec rd pid op c { w with dirs := dirs } = some (a, { v with dirs := dirs }) ∧
      v.dirs = w.dirs := by
  cases op with
  | dir b d => exact absurd rfl (elsewhere b d)
  | log | inc | utcnow | open_session | get_batch | rollback | ray_init =>
      cases executed
      exact ⟨rfl, rfl⟩
  | time | format_exc | client_ready =>
      cases c <;> cases executed
      exact ⟨rfl, rfl⟩
  | ulid =>
      cases c with
      | ulid u =>
          obtain ⟨new, same⟩ := Option.ite_none_left_eq_some.1 executed
          cases same
          exact ⟨if_neg new, rfl⟩
      | _ => cases executed
  | submit_job =>
      cases c with
      | submission id =>
          obtain ⟨new, same⟩ := Option.ite_none_left_eq_some.1 executed
          cases same
          exact ⟨if_neg new, rfl⟩
      | _ => cases executed
  | list_active_batches =>
      cases c with
      | order rows =>
          obtain ⟨listed, same⟩ := Option.ite_none_right_eq_some.1 executed
          cases same
          exact ⟨if_pos listed, rfl⟩
      | _ => cases executed
  | commit =>
      obtain ⟨table, committed, same⟩ := Option.map_eq_some_iff.1 executed
      cases same
      exact ⟨Option.map_eq_some_iff.2 ⟨table, committed, rfl⟩, rfl⟩
  | get_job_status =>
      obtain ⟨job, known, same⟩ := Option.map_eq_some_iff.1 executed
      cases same
      exact ⟨Option.map_eq_some_iff.2 ⟨job, known, rfl⟩, rfl⟩

/-- Redacting a directory that an operation leaves behind. -/
theorem redacted_setDir (w : World) (b : String) (d : Dir) :
    redacted (w.setDir b d) = (redacted w).setDir b (d.setFile .input none) := by
  simp only [redacted, World.setDir]
  congr 1
  funext b'
  by_cases same : b' = b
  · subst same
    simp
  · simp [same]

/-- Operations that are blind to the input files do the same without them. -/
theorem exec_redacted {rd : RayData} {pid : Nat} {op : Op} (blind : Blind op) {c : Choice}
    {w v : World} {a : op.Res} (executed : exec rd pid op c w = some (a, v)) :
    ∃ u, exec rd pid op c (redacted w) = some (a, u) ∧ redacted u = redacted v := by
  cases op with
  | dir b d =>
      obtain ⟨d', performed, rfl⟩ := dir_exec rd pid executed
      have here : (redacted w).dirs b = (w.dirs b).setFile .input none := rfl
      have done : ∀ u, d.exec rd c ((w.dirs b).setFile .input none) = some (a, u) →
          u.setFile .input none = d'.setFile .input none →
          ∃ u, exec rd pid (.dir b d) c (redacted w) = some (a, u) ∧
            redacted u = redacted (w.setDir b d') := by
        intro u performed' same
        refine ⟨(redacted w).setDir b u, ?_, ?_⟩
        · show (d.exec rd c ((redacted w).dirs b)).map _ = _
          rw [here, performed']
          rfl
        · rw [redacted_setDir, redacted_setDir, redacted_redacted, same]
      cases d with
      | «exists» f =>
          cases performed
          refine done ((w.dirs b).setFile .input none) ?_ (setFile_setFile _ _ _ _)
          show some ((((w.dirs b).setFile .input none).file f).isSome, _) = _
          rw [Dir.setFile_other _ _ _ _ blind]
          rfl
      | read_text f =>
          obtain ⟨text, written, same⟩ := Option.map_eq_some_iff.1 performed
          cases same
          refine done ((w.dirs b).setFile .input none) ?_ (setFile_setFile _ _ _ _)
          show (((w.dirs b).setFile .input none).file f).map _ = _
          rw [Dir.setFile_other _ _ _ _ blind, written]
          rfl
      | mkdir =>
          cases performed
          exact done _ rfl (by simp [Dir.setFile])
      | create f =>
          obtain ⟨made, same⟩ := Option.ite_none_right_eq_some.1 performed
          cases blind
          cases same
          exact done _ (if_pos made) (by simp)
      | _ => exact blind.elim
  | _ =>
      obtain ⟨performed, dirs⟩ :=
        exec_elsewhere (by simp) executed (redacted w).dirs
      refine ⟨_, performed, ?_⟩
      simp [redacted, dirs, Dir.setFile]

theorem prompts_sound (rd : RayData) (pid : Nat) : prompts.Sound (machine rd pid) redacted where
  blind_exec op c w w' a a' v v' blind alike executed executed' := by
    obtain ⟨u, performed, same⟩ := exec_redacted blind executed
    obtain ⟨u', performed', same'⟩ := exec_redacted blind executed'
    rw [alike, performed'] at performed
    cases performed
    exact ⟨rfl, same.symm.trans same'⟩
  secret_exec op c w a v secret executed := by
    obtain ⟨b, chunk, rfl⟩ : ∃ b chunk, op = .dir b (.append .input chunk) := by
      change writesInput op = true at secret
      unfold writesInput at secret
      split at secret
      · exact ⟨_, _, rfl⟩
      · cases secret
    obtain ⟨d, performed, rfl⟩ := dir_exec rd pid executed
    obtain ⟨content, -, same⟩ := Option.map_eq_some_iff.1 performed
    cases same
    rw [redacted_setDir, setFile_setFile]
    exact World.setDir_self (redacted w) b
  idle_exec op c w a v idle executed := by
    cases idle
    cases executed
    rfl

/-! ## The programs of the API -/

/-- A program that neither reads an input file nor adds to it. -/
abbrev BlindProgram {α : Type} (p : Proc α) : Prop := p.Uses Blind

section Programs

variable {α : Type}

theorem blind_ask {op : Op} (blind : Blind op) : BlindProgram (ask op) := Program.Uses.ask blind

theorem blind_lift (x : Except PyException α) : BlindProgram (lift x) := by
  cases x <;> trivial

theorem blind_session {body : Proc (Pending × α)} (blind : BlindProgram body) :
    BlindProgram (session_scope body) := by
  refine .bind (blind_ask trivial) fun _ => .catching ?_ fun exc => ?_
  · exact .bind blind fun said => .bind (blind_ask trivial) fun _ => trivial
  · split
    · exact .bind (blind_ask trivial) fun _ => trivial
    · trivial

/-- A session that loads its row first. -/
theorem blind_found {b : String} {f : Option Batch → Proc (Pending × α)}
    (blind : ∀ row, BlindProgram (f row)) :
    BlindProgram (session_scope ((ask (.get_batch b)).bind f)) :=
  blind_session (.bind (blind_ask trivial) blind)

theorem submit_blind (entrypoint : String) (env : Option RuntimeEnv) :
    BlindProgram (submit_batch entrypoint env) := by
  refine .bind (blind_ask trivial) fun ready => ?_
  cases ready with
  | false => trivial
  | true =>
      exact .bind (blind_ask trivial) fun _ => .bind (blind_ask trivial) fun _ => trivial

theorem get_status_blind (rt : Runtime) (id : String) : BlindProgram (get_status rt id) := by
  refine .bind (blind_ask trivial) fun ready => ?_
  cases ready with
  | false => trivial
  | true => exact .bind (blind_ask trivial) fun _ => trivial

theorem read_marker_blind {f : FileName} (other : f ≠ .input) (b : String) :
    BlindProgram (read_marker f b) := by
  refine .bind (blind_ask other) fun present => ?_
  cases present with
  | false => trivial
  | true =>
      refine .bind (blind_ask other) fun text => ?_
      cases Json.loads text <;> trivial

theorem mark_failed_blind (b error : String) : BlindProgram (_mark_failed b error) := by
  refine blind_found fun row => ?_
  cases row with
  | none => exact .bind (blind_ask trivial) fun _ => trivial
  | some row => exact .bind (blind_ask trivial) fun _ => trivial

theorem attach_blind (b id : String) : BlindProgram (_attach_ray_job_id b id) := by
  refine blind_found fun row => ?_
  cases row with
  | none => exact .bind (blind_ask trivial) fun _ => trivial
  | some row => trivial

theorem submit_inserted_blind (settings : Settings) (request : CreateBatchRequest) (b : String) :
    BlindProgram (submitInserted settings request b) := by
  refine .bind (.catching ?_ fun exc => ?_) fun ray_job_id => ?_
  · exact submit_blind _ _
  · split
    · refine .bind (blind_ask trivial) fun _ => .bind (blind_ask trivial) fun _ => ?_
      exact .bind (mark_failed_blind _ _) fun _ => trivial
    · trivial
  · refine .bind (attach_blind _ _) fun _ => .bind (blind_ask trivial) fun _ => ?_
    refine .bind (blind_found fun row => trivial) fun refreshed => ?_
    cases refreshed with
    | none => exact .bind (blind_ask trivial) fun _ => trivial
    | some row => exact blind_lift _

theorem batch_status_blind (b : String) : BlindProgram (get_batch_status b) := by
  refine .bind (blind_found fun row => trivial) fun row => ?_
  cases row with
  | none => trivial
  | some row => exact blind_lift _

theorem update_status_blind (b new_status : String) :
    BlindProgram (_update_status_only b new_status) := by
  refine blind_found fun row => ?_
  cases row with
  | none => trivial
  | some row =>
      show BlindProgram (if row.status = new_status then _ else _)
      split <;> trivial

theorem apply_success_blind (rt : Runtime) (b : String) (marker : Json.Value) (now : Nat) :
    BlindProgram (_apply_success rt b marker now) := by
  refine blind_found fun row => ?_
  cases row with
  | none => trivial
  | some row =>
      refine .bind (blind_lift _) fun _ => .bind (blind_lift _) fun _ => ?_
      exact .bind (blind_ask trivial) fun _ => trivial

theorem apply_terminal_blind (b new_status : String) (error : Json.Value) (now : Nat) :
    BlindProgram (_apply_terminal b new_status error now) := by
  refine blind_found fun row => ?_
  cases row with
  | none => trivial
  | some row => exact .bind (blind_ask trivial) fun _ => .bind (blind_lift _) fun _ => trivial

theorem poll_terminal_blind (rt : Runtime) (b new_status : String) (input_count now : Nat) :
    BlindProgram (_poll_terminal rt b new_status input_count now) := by
  unfold _poll_terminal
  split
  · refine .bind (read_marker_blind (by decide) _) fun marker => ?_
    cases marker <;> exact apply_success_blind _ _ _ _
  split
  · refine .bind (read_marker_blind (by decide) _) fun marker => ?_
    show BlindProgram (if truthy rt marker then _ else _)
    split
    · exact .bind (blind_lift _) fun error => apply_terminal_blind _ _ _ _
    · exact apply_terminal_blind _ _ _ _
  · exact apply_terminal_blind _ _ _ _

theorem poll_row_blind (rt : Runtime) (row : Batch) : BlindProgram (pollRow rt row) := by
  unfold pollRow
  cases row.ray_job_id with
  | none => trivial
  | some id =>
      refine .catching ?_ fun exc => ?_
      · refine .bind (get_status_blind _ _) fun new_status => ?_
        split
        · exact update_status_blind _ _
        · exact .bind (blind_ask trivial) fun now => poll_terminal_blind _ _ _ _ _
      · split
        · exact blind_ask trivial
        · trivial

theorem poller_round_blind (rt : Runtime) : BlindProgram (pollerRound rt) := by
  refine .catching (.bind (blind_session ?_) fun active => ?_) fun exc => ?_
  · exact .bind (blind_ask trivial) fun rows => trivial
  · split
    · trivial
    · exact .bind (blind_ask trivial) fun _ => .forEach (poll_row_blind rt) active
  · split
    · trivial
    split
    · exact blind_ask trivial
    · trivial

end Programs

/-! ### create_batch -/

/-- Requests that differ in the texts of their prompts only. -/
structure SameShape (request request' : CreateBatchRequest) : Prop where
  model : request.model = request'.model
  count : request.input.length = request'.input.length
  max_tokens : request.max_tokens = request'.max_tokens

theorem append_writes (b : String) (c : Char) :
    prompts.Writes (ask (.dir b (.append .input [c])) : Proc Unit) :=
  ⟨rfl, fun _ => trivial, fun _ => rfl⟩

theorem write_text_writes (b : String) (text : Text) : prompts.Writes (writeText b .input text) :=
  .forEach (append_writes b) text

/-- What `write_inputs_jsonl` adds to the file that it has created. -/
def inputLines (b : String) (items : List Json.Record) : Proc Unit :=
  Program.forEach items.zipIdx fun (item, idx) => writeText b .input (inputLine idx item)

theorem input_lines_writes (b : String) (items : List Json.Record) :
    prompts.Writes (inputLines b items) :=
  .forEach (fun _ => write_text_writes b _) items.zipIdx

/-- `create_batch` from the complete input file on. -/
def afterInput (settings : Settings) (request : CreateBatchRequest) (b : String) :
    Proc BatchObject := do
  session_scope (pure
    (.insert (newRow settings request b (filePath settings.RESULTS_DIR b .input)), ()))
  submitInserted settings request b

theorem after_input_same (settings : Settings) {request request' : CreateBatchRequest}
    (same : SameShape request request') (b : String) :
    afterInput settings request b = afterInput settings request' b := by
  have row : newRow settings request b = newRow settings request' b := by
    funext path
    simp only [newRow, same.model, same.count, same.max_tokens]
  have attach : attachSubmitted request b = attachSubmitted request' b := by
    funext id
    unfold attachSubmitted
    rw [same.model]
  simp only [afterInput, row, submitInserted, attach, same.model, same.max_tokens]

theorem after_input_opens (settings : Settings) (request : CreateBatchRequest) (b : String) :
    prompts.Opens (afterInput settings request b) := ⟨rfl, fun _ => rfl⟩

theorem after_input_blind (settings : Settings) (request : CreateBatchRequest) (b : String) :
    BlindProgram (afterInput settings request b) :=
  .bind (blind_session trivial) fun _ => submit_inserted_blind _ _ _

theorem write_inputs_eq (root b : String) {items : List Json.Record} (some_items : items ≠ []) :
    write_inputs_jsonl root b items =
      (ask (.dir b .mkdir)).bind fun _ => (ask (.dir b (.create .input))).bind fun _ =>
        (inputLines b items).bind fun _ => .ret (filePath root b .input) := by
  unfold write_inputs_jsonl
  rw [if_neg (by simpa using some_items)]
  rfl

theorem create_batch_eq (settings : Settings) (request : CreateBatchRequest) :
    create_batch settings request = (ask .ulid).bind fun u =>
      (ask (.log .info ("create_batch: id=" ++ newBatchId u ++ " prompts=" ++
        toString request.input.length))).bind fun _ =>
      (ask (.dir (newBatchId u) .mkdir)).bind fun _ =>
      (ask (.dir (newBatchId u) (.create .input))).bind fun _ =>
      (inputLines (newBatchId u) (request.input.map (·.model_dump))).bind fun _ =>
      afterInput settings request (newBatchId u) := by
  have some_items : request.input.map (·.model_dump) ≠ [] := by
    have := request.input_min_length
    intro none
    rw [List.map_eq_nil_iff.1 none] at this
    cases this
  have begun : create_batch settings request = ((ask .ulid).bind fun u => .ret (newBatchId u)).bind
      fun b => (ask (.log .info ("create_batch: id=" ++ b ++ " prompts=" ++
        toString request.input.length))).bind fun _ =>
      (write_inputs_jsonl settings.RESULTS_DIR b (request.input.map (·.model_dump))).bind
        fun path => (session_scope (pure (.insert (newRow settings request b path), ()))).bind fun _ =>
          submitInserted settings request b := rfl
  rw [begun]
  simp only [write_inputs_eq _ _ some_items, Program.bind_assoc, Program.ret_bind]
  rfl

/-- **Two requests of one shape** make `create_batch` do the same, but for the input file. -/
theorem create_twin (settings : Settings) {request request' : CreateBatchRequest}
    (same : SameShape request request') :
    prompts.Twin (create_batch settings request) (create_batch settings request') := by
  rw [create_batch_eq, create_batch_eq, same.count]
  refine .ask trivial fun u => .ask trivial fun _ => .ask trivial fun _ => .ask rfl fun _ => ?_
  rw [after_input_same settings same]
  exact .writes (input_lines_writes _ _) (input_lines_writes _ _) (after_input_opens _ _ _)
    (after_input_blind _ _ _)

end KubeRayBatch.Api
