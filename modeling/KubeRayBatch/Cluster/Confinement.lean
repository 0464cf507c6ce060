/-
# Cluster.Confinement -- which files the system opens

A batch id reaches the file system from three sides: a client names it in a URL, a row of the
table holds it, and a job gets it as an argument.  The path is made by joining it to the
results root, where an absolute id would replace the root and `..` would leave it.  But only
an id that a handler has drawn ever gets there.

* `create_batch_inside`, `streamed_results_inside`, `poller_round_inside`, `main_inside`: a
  program opens the directories of ids that it was answered;
* `Reachable.confined`: so it is for every process of every state;
* `Reachable.undrawn`: no directory is made but for a drawn id;
* `files_confined`: every operation is inside the results root, on the files of a drawn id.
-/
import KubeRayBatch.Theory.PosixPath
import KubeRayBatch.Cluster.Service

namespace KubeRayBatch.Cluster

open Theory Api Worker

set_option autoImplicit false

/-! ## Programs on one directory -/

/-- The batch whose directory an operation opens. -/
def Op.opens : Op → Option String
  | .dir b _ => some b
  | _ => none

/-- A program that opens no directory but the one of `b`. -/
def OnlyOn {α : Type} (b : String) (p : Proc α) : Prop := p.Uses fun op => ∀ b', op.opens = some b' → b' = b

namespace OnlyOn

variable {α β : Type} {b : String}

theorem ret (a : α) : OnlyOn b (.ret a : Proc α) := trivial

theorem raise (e : PyException) : OnlyOn b (.raise e : Proc α) := trivial

theorem ask {op : Op} (elsewhere : op.opens = none) : OnlyOn b (Cluster.ask op) :=
  Program.Uses.ask fun b' opened => by
    rw [elsewhere] at opened
    cases opened

theorem dir (op : DirOp) : OnlyOn b (Cluster.ask (.dir b op)) :=
  Program.Uses.ask fun _ opened => (Option.some.inj opened).symm

theorem bind {p : Proc β} {f : β → Proc α} (first : OnlyOn b p) (rest : ∀ a, OnlyOn b (f a)) :
    OnlyOn b (p.bind f) := Program.Uses.bind first rest

theorem catching {p : Proc α} {handler : PyException → Option (Proc α)} (body : OnlyOn b p)
    (handled : ∀ e, OnlyOn b ((handler e).getD (.raise e))) : OnlyOn b (p.catching handler) :=
  Program.Uses.catching body handled

theorem forEach {body : β → Proc Unit} (each : ∀ x, OnlyOn b (body x)) (xs : List β) :
    OnlyOn b (Program.forEach xs body) := Program.Uses.forEach each xs

theorem lift (x : Except PyException α) : OnlyOn b (lift x) := by
  cases x <;> trivial

theorem session {body : Proc (Pending × α)} (inside : OnlyOn b body) : OnlyOn b (session_scope body) := by
  refine .bind (.ask rfl) fun _ => .catching (.bind inside fun _ => .bind (.ask rfl) fun _ => trivial) ?_
  intro exc
  split
  · exact .bind (.ask rfl) fun _ => trivial
  · trivial

/-- A session that loads a row. -/
theorem load {id : String} {f : Option Batch → Proc (Pending × α)} (absent : OnlyOn b (f none))
    (present : ∀ row, OnlyOn b (f (some row))) :
    OnlyOn b (session_scope ((Cluster.ask (.get_batch id)).bind f)) :=
  session (.bind (.ask rfl) fun answer => by
    cases answer with
    | none => exact absent
    | some row => exact present row)

theorem when_ready {p : Proc α} (inside : OnlyOn b p) :
    OnlyOn b ((Cluster.ask .client_ready).bind fun (ready : Bool) =>
      if !ready then .raise (.runtimeError "ray_client not initialized") else p) := by
  refine .bind (.ask rfl) fun ready => ?_
  cases ready with
  | false => trivial
  | true => exact inside

end OnlyOn

/-! ### Of the API -/

section Api

variable {b : String}

theorem mark_failed_only (error : String) : OnlyOn b (_mark_failed b error) :=
  .load (.bind (.ask rfl) fun _ => trivial) fun _ => .bind (.ask rfl) fun _ => trivial

theorem write_inputs_only (root : String) (items : List Json.Record) :
    OnlyOn b (write_inputs_jsonl root b items) := by
  unfold write_inputs_jsonl
  split
  · trivial
  · refine .bind (.dir .mkdir) fun _ => .bind (.dir (.create .input)) fun _ => .bind ?_ fun _ => trivial
    exact .forEach (fun item => .forEach (fun c => .dir (.append .input [c])) _) _

theorem attach_submitted_only (request : CreateBatchRequest) (ray_job_id : String) :
    OnlyOn b (attachSubmitted request b ray_job_id) := by
  refine .bind (.load (.bind (.ask rfl) fun _ => trivial) fun _ => trivial) fun _ => ?_
  refine .bind (.ask rfl) fun _ => .bind (.load trivial fun _ => trivial) fun refreshed => ?_
  cases refreshed with
  | none => exact .bind (.ask rfl) fun _ => trivial
  | some row => exact .lift _

/-- **`create_batch`** once its id is drawn. -/
theorem created_only (settings : Settings) (request : CreateBatchRequest) :
    OnlyOn b (do
      ask (.log .info ("create_batch: id=" ++ b ++ " prompts=" ++ toString request.input.length))
      let input_items := request.input.map (·.model_dump)
      let input_path ← write_inputs_jsonl settings.RESULTS_DIR b input_items
      session_scope (pure (.insert (newRow settings request b input_path), ()))
      submitInserted settings request b) := by
  refine .bind (.ask rfl) fun _ => .bind (write_inputs_only _ _) fun _ => ?_
  refine .bind (.session trivial) fun _ => .bind (.catching (.when_ready ?_) ?_) fun ray_job_id =>
    attach_submitted_only request ray_job_id
  · exact .bind (.ask rfl) fun _ => .bind (.ask rfl) fun _ => trivial
  · intro exc
    split
    · refine .bind (.ask rfl) fun _ => .bind (.ask rfl) fun _ => ?_
      exact .bind (mark_failed_only _) fun _ => trivial
    · trivial

theorem read_marker_only (f : FileName) : OnlyOn b (read_marker f b) := by
  refine .bind (.dir (.exists f)) fun present => ?_
  cases present with
  | false => trivial
  | true =>
      refine .bind (.dir (.read_text f)) fun text => ?_
      split <;> trivial

theorem apply_success_only (rt : Runtime) (marker : Json.Value) (now : Nat) :
    OnlyOn b (_apply_success rt b marker now) :=
  .load trivial fun _ => .bind (.lift _) fun _ => .bind (.lift _) fun _ => .bind (.ask rfl) fun _ => trivial

theorem apply_terminal_only (status : String) (error : Json.Value) (now : Nat) :
    OnlyOn b (_apply_terminal b status error now) :=
  .load trivial fun _ => .bind (.ask rfl) fun _ => .bind (.lift _) fun _ => trivial

theorem poll_terminal_only (rt : Runtime) (status : String) (input_count now : Nat) :
    OnlyOn b (_poll_terminal rt b status input_count now) := by
  unfold _poll_terminal
  split
  · refine .bind (read_marker_only .success) fun marker => ?_
    split <;> exact apply_success_only _ _ _
  · split
    · refine .bind (read_marker_only .failed) fun marker => ?_
      show OnlyOn b (if truthy rt marker then _ else _)
      split
      · exact .bind (.lift _) fun message => apply_terminal_only _ _ _
      · exact apply_terminal_only _ _ _
    · exact apply_terminal_only _ _ _

theorem poll_one_only (rt : Runtime) (ray_job_id : String) (input_count : Nat) :
    OnlyOn b (_poll_one rt b ray_job_id input_count) := by
  refine .bind (.when_ready (.bind (.ask rfl) fun _ => trivial)) fun status => ?_
  split
  · refine .load (.ret _) fun row => ?_
    show OnlyOn b (if row.status = status then _ else _)
    split <;> exact .ret _
  · exact .bind (.ask rfl) fun _ => poll_terminal_only _ _ _ _

theorem poll_row_only (rt : Runtime) (row : Batch) : OnlyOn row.id (pollRow rt row) := by
  unfold pollRow
  split
  · trivial
  · refine .catching (poll_one_only _ _ _) fun exc => ?_
    split
    · exact .ask rfl
    · trivial

end Api

/-! ### Of the worker -/

section Worker

variable (rt : Runtime) (env : Environ) {b : String}

theorem write_text_only (f : FileName) (text : Text) : OnlyOn b (write_text b f text) :=
  .bind (.dir (.create f)) fun _ => .forEach (fun c => .dir (.append f [c])) _

theorem write_json_only (plan : Plan) : OnlyOn b (write_json b plan) := by
  refine .bind (.dir (.execute plan)) fun dataset => .bind (.dir (.create_staged dataset.1)) fun _ => ?_
  exact .forEach (fun c => .dir (.append_staged dataset.1 [c])) _

theorem promote_first_only : OnlyOn b (promoteFirst env b) := by
  refine .bind (.dir .glob_staging) fun names => ?_
  split
  · trivial
  · exact .dir _

theorem finish_only (model : String) (counts : Counts) :
    OnlyOn b (do
      unlinkIfPresent b .failed
      writeSuccess b model counts
      cleanStaging b
      pure counts) := by
  refine .bind (.bind (.dir (.exists .failed)) fun (present : Bool) => ?_) fun _ => ?_
  · cases present with
    | false => exact .ret ()
    | true => exact .dir (.unlink .failed)
  · refine .bind (.bind (.ask rfl) fun _ => write_text_only _ _) fun _ => .bind ?_ fun _ => trivial
    refine .bind (.dir .glob_staging) fun names => ?_
    exact .bind (.forEach (fun name => .dir (.unlink_staged name)) _) fun _ => .dir .rmdir_staging

theorem run_batch_only (model : String) (max_tokens : Int) : OnlyOn b (run_batch rt env b model max_tokens) := by
  refine .bind (.dir (.exists .input)) fun present => ?_
  split
  · trivial
  refine .bind (.ask rfl) fun _ => .bind (.ask rfl) fun _ => .bind (.dir .read_json) fun rows => ?_
  refine .bind (.ask rfl) fun _ => .bind (.ask rfl) fun _ => .bind (.dir .mkdir_staging) fun _ => ?_
  refine .bind (.ask rfl) fun _ => .bind (write_json_only _) fun _ => ?_
  refine .bind (promote_first_only env) fun _ => .bind (.dir (.read_text .results)) fun content => ?_
  exact .bind (.lift _) fun _ => .bind (.ask rfl) fun _ => finish_only _ _

/-- **A job** works on the directory of its batch. -/
theorem run_job_only (args : Arguments) : OnlyOn args.batch_id (runJob rt env args) := by
  refine .catching (.bind (.ask rfl) fun _ => .bind (run_batch_only rt env _ _) fun _ => ?_) fun exc => ?_
  · exact .bind (.ask rfl) fun _ => trivial
  · split
    · refine .bind (.ask rfl) fun _ => .bind (.ask rfl) fun _ => .bind (.ask rfl) fun _ => ?_
      refine .bind (.dir .mkdir) fun _ => .bind (.ask rfl) fun _ => .bind (.ask rfl) fun _ => ?_
      exact .bind (write_text_only _ _) fun _ => trivial
    · trivial

end Worker

/-! ## Drawn ids -/

/-- A handler has drawn this id. -/
def Issued (w : World) (b : String) : Prop := ∃ pid, (view w b).owner = some pid

section Ids

variable {D : Deployment} {A : Assumed} {s s' : State} {w w' : World} {b : String}

/-- The id is the one of a ULID. -/
theorem Issued.drawn (issued : Issued w b) : ∃ u, b = newBatchId u := by
  obtain ⟨pid, owned⟩ := issued
  obtain ⟨⟨u, pid'⟩, found, -⟩ := Option.map_eq_some_iff.1 owned
  have same := List.find?_some found
  exact ⟨u, (beq_iff_eq.1 same).symm⟩

theorem Issued.move {actor : Actor} (issued : Issued w b) (moved : Move D A actor w w') : Issued w' b := by
  obtain ⟨pid, owned⟩ := issued
  refine ⟨pid, ?_⟩
  rcases moved.at b with same | changed
  · rw [same]
    exact owned
  · exact changed.owner owned

theorem Issued.step (safe : SysInv D A s) {e : Step} (may : permitted D A e s = true)
    (stepped : step D e s = some s') (issued : Issued s.world b) : Issued s'.world b := by
  obtain ⟨-, actor, moved⟩ := safe.step may stepped
  exact issued.move moved

theorem issued_of_row (inv : Inv D A w) {row : Batch} (found : (view w b).row = some row) : Issued w b := by
  cases owner : (view w b).owner with
  | some pid => exact ⟨pid, owner⟩
  | none =>
      rw [(inv.sound b).unowned owner] at found
      cases found

/-- The directory of an id that is not drawn is left alone. -/
theorem Change.unowned {now : Nat} {actor : Actor} {v v' : View} (changed : Change D A b now actor v v')
    (sound : Sound D A b now v) (unowned : v.owner = none) : v'.dir = v.dir := by
  have absent := sound.unowned unowned
  cases changed with
  | input pid dir owned =>
      rw [unowned] at owned
      cases owned
  | work pid job dir submitted =>
      rw [sound.jobless absent] at submitted
      cases submitted
  | _ => rfl

/-- **No directory** is made but for a drawn id. -/
theorem Reachable.undrawn (reachable : Reachable D A s) (unissued : ¬Issued s.world b) :
    s.world.dirs b = .empty := by
  induction reachable with
  | init => rfl
  | @step s s' e before may stepped ih =>
      have safe := reachable_inv before
      have absent : ¬Issued s.world b := fun issued => unissued (issued.step safe may stepped)
      obtain ⟨-, actor, moved⟩ := safe.step may stepped
      have same : (view s'.world b).dir = (view s.world b).dir := by
        rcases moved.at b with same | changed
        · rw [same]
        · refine changed.unowned (safe.world.sound b) ?_
          exact Option.eq_none_iff_forall_ne_some.2 fun pid owned => absent ⟨pid, owned⟩
      exact same.trans (ih absent)

end Ids

/-! ## What a process opens -/

/-- What is learned from an answer: ids of `P`. -/
def Learns (P : String → Prop) : (op : Op) → op.Res → Prop
  | .ulid, (u : Ulid) => P (newBatchId u)
  | .get_batch b, (row : Option Batch) => row ≠ none → P b
  | .list_active_batches, (rows : List Batch) => ∀ row ∈ rows, P row.id
  | _, _ => True

def idTerms (P : String → Prop) : Program.Terms Op Op.Res PyException where
  asks := fun op => ∀ b, op.opens = some b → P b
  answers := Learns P
  fails := fun _ _ => True

/-- A program that opens directories of `P` only, whatever is thrown at it. -/
def Inside {α : Type} (P : String → Prop) (p : Proc α) (Q : α → Prop) : Prop :=
  p.Obeys (idTerms P) Q fun _ => True

section Programs

variable {α : Type} {P : String → Prop} {b : String}

theorem OnlyOn.inside {p : Proc α} (only : OnlyOn b p) (mine : P b) : Inside P p fun _ => True := by
  refine .of_uses only fun op here b' opened => ?_
  rw [here b' opened]
  exact mine

/-- An operation that opens nothing. -/
theorem inside_ask (op : Op) (elsewhere : op.opens = none) :
    Inside P (ask op) fun a => Learns P op a := by
  refine .ask (fun b opened => ?_) (fun _ learned => learned) fun _ _ => trivial
  rw [elsewhere] at opened
  cases opened

theorem inside_session {Q : α → Prop} {body : Proc (Pending × α)}
    (inside : Inside P body fun said => Q said.2) : Inside P (session_scope body) Q := by
  refine .bind (inside_ask _ rfl) fun _ _ => .catching (F := fun _ => True) ?_ fun exc _ => ?_
  · exact .bind inside fun said holds => .bind (inside_ask _ rfl) fun _ _ => holds
  · split
    · exact .bind (inside_ask _ rfl) fun _ _ => trivial
    · trivial

/-- **`create_batch`** opens the directory of the id that it draws. -/
theorem create_batch_inside (settings : Settings) (request : CreateBatchRequest) :
    Inside P (create_batch settings request) fun _ => True := by
  refine .bind (R := P) (.bind (inside_ask .ulid rfl) fun u drawn => drawn) fun b mine => ?_
  exact (created_only settings request).inside mine

/-- **A reader** opens the directory of a row that it has found. -/
theorem streamed_results_inside (settings : Settings) (batch_id : String) :
    Inside P (streamed_results settings batch_id) fun _ => True := by
  refine .bind (R := fun response => P response.batch_id) ?_ fun response mine => ?_
  · refine .bind (R := fun row => row ≠ none → P batch_id) (inside_session ?_) fun row found => ?_
    · exact .bind (inside_ask (.get_batch batch_id) rfl) fun row learned => learned
    cases row with
    | none => trivial
    | some row =>
        have mine : P batch_id := found (by simp)
        show Program.Obeys _ _ _ (if row.status ≠ "completed" then _ else _)
        split
        · trivial
        · refine .bind ((OnlyOn.dir (.exists .results)).inside mine) fun (present : Bool) _ => ?_
          cases present with
          | false => exact .bind (inside_ask _ rfl) fun _ _ => trivial
          | true => exact mine
  · refine (OnlyOn.bind (.dir (.exists .results)) fun (present : Bool) => ?_).inside mine
    cases present with
    | false => exact .raise _
    | true => exact .bind (.dir (.read_text .results)) fun _ => .ret _

/-- **A sweep** opens the directories of the rows that it was listed. -/
theorem poller_round_inside (rt : Runtime) : Inside P (pollerRound rt) fun _ => True := by
  refine .catching (F := fun _ => True) (.bind (R := fun active => ∀ row ∈ active, P row.id) ?_ ?_) ?_
  · refine inside_session (.bind (inside_ask .list_active_batches rfl) ?_)
    exact fun rows listed => listed
  · intro active listed
    split
    · trivial
    refine .bind (inside_ask _ rfl) fun _ _ => .forEach trivial fun row mem => ?_
    exact (poll_row_only rt row).inside (listed row mem)
  · intro exc _
    split
    · trivial
    split
    · exact (inside_ask _ rfl).mono (fun _ _ => trivial) fun _ _ => trivial
    · trivial

/-- **A job** opens the directory of its argument. -/
theorem main_inside (rt : Runtime) (env : Environ) {argv : List Text}
    (mine : ∀ args, parse_args env.DEFAULT_MODEL argv = .ok args → P args.batch_id) :
    Inside P (main rt env argv) fun _ => True := by
  unfold main
  split
  · trivial
  · rename_i args parsed
    exact (run_job_only rt env args).inside (mine args parsed)

end Programs

/-! ### In every state -/

/-- A process opens only the directories of ids that are drawn, from here on. -/
def Process.Confined (p : Process) (w : World) : Prop :=
  ∀ P : String → Prop, (∀ b, Issued w b → P b) → Inside P p.program fun _ => True

section Runs

variable {D : Deployment} {A : Assumed} {s s' : State}

theorem starts_confined (safe : SysInv D A s) {p : Process} (isStart : Starts D s.world p) :
    p.Confined s.world := by
  intro P covers
  cases isStart with
  | handler request => exact create_batch_inside D.settings request
  | reader batch_id => exact streamed_results_inside D.settings batch_id
  | poller => exact poller_round_inside D.rt
  | @worker submission_id job argv known entered =>
      -- the arguments are those of a row
      obtain ⟨b, mine, -⟩ := safe.world.owner_of known
      obtain ⟨row, isRow⟩ := (safe.world.sound b).job_row mine
      have sound := (safe.world.sound b).row row isRow
      obtain ⟨u, request, posted⟩ := sound.origin
      have entrypoint := ((safe.world.sound b).job row job isRow mine).entrypoint
      obtain rfl := posted.id
      rw [posted.model, posted.max_tokens] at entrypoint
      refine main_inside D.rt D.environ fun args parsed => ?_
      have words := parse_job D.environ.DEFAULT_MODEL u request
      rw [← entrypoint, entered, Option.map_some, Option.some.injEq, parsed] at words
      split at words
      · cases words
        exact covers _ (issued_of_row safe.world isRow)
      · cases words

/-- What an operation answers are drawn ids. -/
theorem learns_issued (safe : SysInv D A s) {rd : RayData} {pid : Nat} {op : Op} {c : Choice} {w : World}
    {a : op.Res} {P : String → Prop} (covers : ∀ b, Issued w b → P b)
    (kept : ∀ b, Issued s.world b → Issued w b) (executed : exec rd pid op c s.world = some (a, w)) :
    Learns P op a := by
  cases op with
  | ulid => exact covers _ ⟨pid, by rw [(view_ulid rd pid executed).2.1]⟩
  | get_batch b =>
      cases executed
      intro found
      obtain ⟨row, isRow⟩ := Option.ne_none_iff_exists'.1 found
      exact covers b (issued_of_row safe.world isRow)
  | list_active_batches =>
      cases c with
      | order rows =>
          obtain ⟨perm, same⟩ := Option.ite_none_right_eq_some.1 executed
          cases same
          intro row mem
          obtain ⟨inTable, -⟩ := List.mem_filter.1 ((List.isPerm_iff.1 perm).subset mem)
          have isRow := safe.world.view_of_mem inTable
          exact covers row.id (issued_of_row safe.world isRow)
      | _ => cases executed
  | _ => trivial

theorem Reachable.confined (reachable : Reachable D A s) :
    ∀ (pid : Nat) (p : Process), s.procs[pid]? = some p → p.Confined s.world := by
  induction reachable with
  | init => exact fun pid p found => by cases found
  | @step s s' e before may stepped ih =>
      have safe := reachable_inv before
      have kept (b : String) (issued : Issued s.world b) : Issued s'.world b := issued.step safe may stepped
      have later (p : Process) (confined : p.Confined s.world) : p.Confined s'.world :=
        fun P covers => confined P fun b issued => covers b (kept b issued)
      refine step_processes (K := fun _ p => p.Confined s'.world)
        (fun pid p found => later p (ih pid p found))
        (fun _ p isStart => later p (starts_confined safe isStart)) (fun _ _ confined => confined) ?_ stepped
      rintro pid event p next w rfl found alive moved
      obtain rfl : s'.world = w := by
        simp only [Cluster.step, found, alive, if_true, moved, Option.map_some] at stepped
        cases stepped
        rfl
      intro P covers
      have here := ih pid p found P fun b issued => covers b (kept b issued)
      refine Program.Obeys.step (M := machine D.rd pid) here ?_ (fun _ _ _ _ => trivial) moved
      exact fun op rest a _ _ executed => learns_issued safe covers kept executed

end Runs

/-! ## Where the paths lead -/

section Paths

open PosixPath

variable {D : Deployment} {A : Assumed} {s : State} {w : World} {b b' : String}

theorem batch_id_plain (u : Ulid) : Plain (newBatchId u).toList := by
  have text : (newBatchId u).toList = 'b' :: ("atch_".toList ++ u.text.toList) := by
    simp [newBatchId]
  rw [text]
  refine .of_head (by decide) fun slash => ?_
  rw [← List.cons_append, List.mem_append] at slash
  rcases slash with inWord | inUlid
  · exact absurd inWord (by decide)
  · exact absurd (u.crockford _ inUlid) (by decide)

theorem Issued.plain (issued : Issued w b) : Plain b.toList := by
  obtain ⟨u, rfl⟩ := issued.drawn
  exact batch_id_plain u

/-- **A file of a drawn id** is a file of the directory of that name in the results root. -/
theorem batch_file_place (issued : Issued w b) (cwd : Place) (root : String) (f : FileName) :
    place cwd (batch_file root b f) = place cwd root.toList ++ [b.toList, f.name.toList] := by
  unfold batch_file batch_dir
  rw [place_join (name_plain f), place_join issued.plain, List.append_assoc]
  rfl

theorem name_injective {f f' : FileName} (same : f.name = f'.name) : f = f' := by
  cases f <;> cases f' <;> first | rfl | exact absurd same (by decide)

/-- Different files are different places. -/
theorem batch_file_inj (issued : Issued w b) (issued' : Issued w b') {cwd : Place} {root : String}
    {f f' : FileName} (same : place cwd (batch_file root b f) = place cwd (batch_file root b' f')) :
    b = b' ∧ f = f' := by
  rw [batch_file_place issued, batch_file_place issued'] at same
  have names := List.append_cancel_left same
  simp only [List.cons.injEq, and_true, String.toList_inj] at names
  exact ⟨names.1, name_injective names.2⟩

/-- The next operation of the process opens the directory of `b`. -/
def Process.Opens (p : Process) (b : String) : Prop :=
  ∃ op next, p.program = .call op next ∧ op.opens = some b

/-- **key theorem.** Whatever ids are asked for, every operation is on the directory of an id
that a handler has drawn, and no other directory is ever made; the files of such an id are
inside the results root, in the directory of that name; and different files are different
places. -/
theorem files_confined (reachable : Reachable D A s) :
    (∀ (pid : Nat) (p : Process) (b : String), s.procs[pid]? = some p → p.Opens b → Issued s.world b) ∧
      (∀ b, s.world.dirs b ≠ .empty → Issued s.world b) ∧
      (∀ (cwd : Place) (root : String) (b : String) (f : FileName), Issued s.world b →
        place cwd (batch_file root b f) = place cwd root.toList ++ [b.toList, f.name.toList]) ∧
      ∀ (cwd : Place) (root b b' : String) (f f' : FileName), Issued s.world b → Issued s.world b' →
        place cwd (batch_file root b f) = place cwd (batch_file root b' f') → b = b' ∧ f = f' := by
  refine ⟨?_, ?_, fun cwd root b f issued => batch_file_place issued cwd root f,
    fun _ _ _ _ _ _ issued issued' => batch_file_inj issued issued'⟩
  · rintro pid p b found ⟨op, next, asks, opens⟩
    have inside := reachable.confined pid p found (Issued s.world) fun _ issued => issued
    rw [asks] at inside
    exact inside.1 b opens
  · intro b made
    by_contra unissued
    exact made (reachable.undrawn unissued)

theorem files_confined_opened : ∃ s : State,
    Reachable sampleDeployment .all s ∧
    s.world.table.map (·.model) = ["m"] ∧
    ∀ row ∈ s.world.table, place [] (batch_file "/data/results" row.id .input) =
      ["data".toList, "results".toList, row.id.toList, "input.jsonl".toList] := by
  have value : (play sampleDeployment .all sunny opening .init).map
      (fun s => s.world.table.map (·.model)) = some ["m"] := by decide +kernel
  obtain ⟨s, played, models⟩ := Option.map_eq_some_iff.1 value
  have reachable := reachable_play .init played
  refine ⟨s, reachable, models, fun row mem => ?_⟩
  have inv := (reachable_inv reachable).world
  exact (files_confined reachable).2.2.1 [] "/data/results" row.id .input (issued_of_row inv (inv.view_of_mem mem))

end Paths

end KubeRayBatch.Cluster
