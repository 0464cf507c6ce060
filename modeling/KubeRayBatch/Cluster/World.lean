/-
# Cluster.World -- what the API processes, the workers and Ray share

The parties never talk to each other directly.  They share the batches table, one
directory per batch on the shared volume, and the jobs Ray knows about; this
module is that shared world and the operations a process asks of it.

File operations are the primitive ones: creating a file truncates it and text is
appended in pieces, so a process that stops in between leaves a torn file.  A
session reads rows and commits its changes as two separate operations, so other
transactions may come between them.

What is not defined here is a parameter: `RayData` says how Ray reads the input
file and which files a dataset plan may produce.  Two fields of the world are
history only and are never read by a program: which process was issued which
ULID (`issued`), and which process runs a job (`runner`).
-/
import KubeRayBatch.Api.Db
import KubeRayBatch.Theory.Contract

namespace KubeRayBatch.Cluster

open Theory Api

set_option autoImplicit false

/-! ## The shared directory of one batch -/

inductive FileName where
  | input
  | results
  | success
  | failed
  deriving DecidableEq, Repr

def FileName.name : FileName → String
  | .input => "input.jsonl"
  | .results => "results.jsonl"
  | .success => "_SUCCESS"
  | .failed => "_FAILED"

/-- One batch directory: whether it was made, its files, and the `_staging`
subdirectory with its files, if there is one. -/
structure Dir where
  made : Bool
  file : FileName → Option Text
  staging : Option (List (String × Text))

namespace Dir

def empty : Dir := ⟨false, fun _ => none, none⟩

def setFile (d : Dir) (f : FileName) (content : Option Text) : Dir :=
  { d with file := Function.update d.file f content }

variable (d : Dir) (f g : FileName) (content : Option Text)

@[simp] theorem setFile_same : (d.setFile f content).file f = content := by simp [setFile]
@[simp] theorem setFile_other (other : g ≠ f) : (d.setFile f content).file g = d.file g := by
  simp [setFile, other]

end Dir

/-! ## Ray -/

/-- A row of the input dataset: its values, as `str` shows them. -/
structure InputRow where
  id : String
  prompt : String
  deriving DecidableEq, Repr

/-- The dataset that the worker builds before it writes it out. -/
structure Plan where
  rows : List InputRow
  num_blocks : Nat
  model_name : String
  max_tokens : Int
  concurrency : Nat
  batch_size : Nat
  output_blocks : Nat

/-- Ray Data: the rows of an input file, and the files, by name and content, that
executing a plan may write. -/
structure RayData where
  read_json : Text → Option (List InputRow)
  may_write : Plan → String → Text → Bool

/-- A job status as the client returns it: an enum member or a plain string. -/
inductive RayStatus where
  | enum (value : String)
  | plain (text : String)
  deriving DecidableEq, Repr

/-- `{"env_vars": {...}}` -/
abbrev RuntimeEnv := List (String × List (String × String))

structure Job where
  submission_id : String
  entrypoint : String
  runtime_env : RuntimeEnv
  status : RayStatus
  /-- The process that runs the entrypoint, once one was started. -/
  runner : Option Nat
  /-- The exit code of that process, once it has exited by itself. -/
  exit_code : Option Nat
  deriving DecidableEq, Repr

/-! ## The world -/

/-- A ULID: 26 characters of Crockford's base 32. -/
structure Ulid where
  text : String
  length : text.length = 26
  crockford : ∀ c ∈ text.toList, c ∈ "0123456789ABCDEFGHJKMNPQRSTVWXYZ".toList
  deriving DecidableEq

inductive LogLevel where
  | info
  | warning
  | error
  deriving DecidableEq, Repr

/-- The labelled counters of the batch routes. -/
inductive Counter where
  | batch_submitted_total (model : String)
  | batch_terminal_total (model status : String)
  | rayjob_submit_failures_total (reason : String)
  deriving DecidableEq, Repr

structure World where
  table : Table
  dirs : String → Dir
  jobs : List Job
  clock : Nat
  issued : List (Ulid × Nat)
  logs : List (LogLevel × String)
  increments : List Counter

namespace World

def init : World := ⟨[], fun _ => .empty, [], 0, [], [], []⟩

def setDir (w : World) (b : String) (d : Dir) : World :=
  { w with dirs := Function.update w.dirs b d }

def job (w : World) (id : String) : Option Job := w.jobs.find? fun job => job.submission_id == id

variable (w : World) (b b' : String) (d : Dir)

@[simp] theorem setDir_self : w.setDir b (w.dirs b) = w := by simp [setDir]
@[simp] theorem setDir_same : (w.setDir b d).dirs b = d := by simp [setDir]
@[simp] theorem setDir_other (other : b' ≠ b) : (w.setDir b d).dirs b' = w.dirs b' := by
  simp [setDir, other]

end World

/-! ## Operations -/

/-- Operations on one batch directory. -/
inductive DirOp where
  | «exists» (f : FileName)
  | read_text (f : FileName)
  | mkdir
  /-- Open for writing: create or truncate. -/
  | create (f : FileName)
  | append (f : FileName) (chunk : Text)
  | unlink (f : FileName)
  | mkdir_staging
  | glob_staging
  | create_staged (name : String)
  | append_staged (name : String) (chunk : Text)
  /-- Rename a staged file to `results.jsonl`. -/
  | promote (name : String)
  | unlink_staged (name : String)
  | rmdir_staging
  /-- The rows Ray Data reads from `input.jsonl`. -/
  | read_json
  /-- Execute a plan whose output goes to a new file of `_staging`: the file's name
  and the content to be written to it. -/
  | execute (plan : Plan)

def DirOp.Res : DirOp → Type
  | .exists _ => Bool
  | .read_text _ => Text
  | .glob_staging => List String
  | .read_json => List InputRow
  | .execute _ => String × Text
  | _ => Unit

inductive Op where
  | log (level : LogLevel) (message : String)
  | inc (counter : Counter)
  /-- `datetime.now(UTC)` -/
  | utcnow
  /-- `time.time()` -/
  | time
  | format_exc
  | ulid
  | dir (b : String) (op : DirOp)
  | open_session
  | get_batch (id : String)
  | list_active_batches
  | commit (pending : Pending)
  | rollback
  /-- Whether the module-level Ray client is bound. -/
  | client_ready
  | submit_job (entrypoint : String) (runtime_env : RuntimeEnv)
  | get_job_status (submission_id : String)
  | ray_init

def Op.Res : Op → Type
  | .utcnow => Nat
  | .time => Json.Float
  | .format_exc => Str
  | .ulid => Ulid
  | .dir _ op => op.Res
  | .get_batch _ => Option Batch
  | .list_active_batches => List Batch
  | .client_ready => Bool
  | .submit_job _ _ => String
  | .get_job_status _ => RayStatus
  | _ => Unit

/-- What the outside world decides while it performs an operation. -/
inductive Choice where
  | go
  | ulid (u : Ulid)
  | seconds (x : Json.Float)
  | text (t : Str)
  | flag (b : Bool)
  | order (rows : List Batch)
  | names (names : List String)
  | dataset (name : String) (content : Text)
  | submission (id : String)

/-- `glob("*.json")` -/
def isJson (name : String) : Bool := ".json".toList.isSuffixOf name.toList

def stagedNames (d : Dir) : List String := (d.staging.getD []).map (·.1)

def DirOp.exec (rd : RayData) : (op : DirOp) → Choice → Dir → Option (op.Res × Dir)
  | .exists f, _, d => some ((d.file f).isSome, d)
  | .read_text f, _, d => (d.file f).map fun content => (content, d)
  | .mkdir, _, d => some ((), { d with made := true })
  | .create f, _, d => if d.made then some ((), d.setFile f (some [])) else none
  | .append f chunk, _, d => (d.file f).map fun content => ((), d.setFile f (some (content ++ chunk)))
  | .unlink f, _, d => (d.file f).map fun _ => ((), d.setFile f none)
  | .mkdir_staging, _, d => some ((), { d with made := true, staging := some (d.staging.getD []) })
  | .glob_staging, choice, d =>
      match choice with
      | .names names => if names.isPerm (stagedNames d) then some (names, d) else none
      | _ => none
  | .create_staged name, _, d =>
      d.staging.map fun files =>
        ((), { d with staging := some (files.filter (fun file => file.1 ≠ name) ++ [(name, [])]) })
  | .append_staged name chunk, _, d =>
      match d.staging with
      | some files =>
          if name ∈ files.map (·.1) then
            some ((), { d with staging := some (files.map fun file =>
              if file.1 = name then (name, file.2 ++ chunk) else file) })
          else none
      | none => none
  | .promote name, _, d =>
      match d.staging with
      | some files =>
          (files.lookup name).map fun content =>
            ((), { d.setFile .results (some content) with
              staging := some (files.filter fun file => file.1 ≠ name) })
      | none => none
  | .unlink_staged name, _, d =>
      match d.staging with
      | some files =>
          if name ∈ files.map (·.1) then
            some ((), { d with staging := some (files.filter fun file => file.1 ≠ name) })
          else none
      | none => none
  | .rmdir_staging, _, d => if d.staging = some [] then some ((), { d with staging := none }) else none
  | .read_json, _, d => ((d.file .input).bind rd.read_json).map fun rows => (rows, d)
  | .execute plan, choice, d =>
      match choice with
      | .dataset name content =>
          if rd.may_write plan name content ∧ isJson name ∧ name ∉ stagedNames d then
            some ((name, content), d)
          else none
      | _ => none

/-- What an operation does when process `pid` asks for it. -/
def exec (rd : RayData) (pid : Nat) : (op : Op) → Choice → World → Option (op.Res × World)
  | .log level message, _, w => some ((), { w with logs := w.logs ++ [(level, message)] })
  | .inc counter, _, w => some ((), { w with increments := w.increments ++ [counter] })
  | .utcnow, _, w => some (w.clock, w)
  | .time, choice, w => match choice with | .seconds x => some (x, w) | _ => none
  | .format_exc, choice, w => match choice with | .text t => some (t, w) | _ => none
  | .ulid, choice, w =>
      match choice with
      | .ulid u =>
          if u ∈ w.issued.map (·.1) then none
          else some (u, { w with issued := w.issued ++ [(u, pid)] })
      | _ => none
  | .dir b op, choice, w => (op.exec rd choice (w.dirs b)).map fun (a, d) => (a, w.setDir b d)
  | .open_session, _, w => some ((), w)
  | .get_batch id, _, w => some (w.table.get id, w)
  | .list_active_batches, choice, w =>
      match choice with
      | .order rows => if rows.isPerm w.table.active then some (rows, w) else none
      | _ => none
  | .commit pending, _, w =>
      (Table.commit w.clock pending w.table).map fun table => ((), { w with table := table })
  | .rollback, _, w => some ((), w)
  | .client_ready, choice, w => match choice with | .flag b => some (b, w) | _ => none
  | .submit_job entrypoint runtime_env, choice, w =>
      match choice with
      | .submission id =>
          if id ∈ w.jobs.map (·.submission_id) then none
          else
            some (id, { w with jobs := w.jobs ++
              [⟨id, entrypoint, runtime_env, .enum "PENDING", none, none⟩] })
      | _ => none
  | .get_job_status id, _, w => (w.job id).map fun job => (job.status, w)
  | .ray_init, _, w => some ((), w)

/-- What a directory operation does to the world. -/
theorem dir_exec (rd : RayData) (pid : Nat) {b : String} {op : DirOp} {c : Choice} {w w' : World}
    {a : op.Res} (executed : exec rd pid (.dir b op) c w = some (a, w')) :
    ∃ d, op.exec rd c (w.dirs b) = some (a, d) ∧ w' = w.setDir b d := by
  obtain ⟨⟨answer, d⟩, performed, same⟩ := Option.map_eq_some_iff.1 executed
  cases same
  exact ⟨d, performed, rfl⟩

/-- Looking for a file. -/
theorem exists_exec (rd : RayData) (pid : Nat) (b : String) (f : FileName) (c : Choice) (w : World) :
    exec rd pid (.dir b (.exists f)) c w = some (((w.dirs b).file f).isSome, w) := by
  show some (((w.dirs b).file f).isSome, w.setDir b (w.dirs b)) = _
  rw [World.setDir_self]

/-- Reading a file that is there. -/
theorem read_text_exec (rd : RayData) (pid : Nat) {b : String} {f : FileName} {text : Text}
    {w : World} (written : (w.dirs b).file f = some text) (c : Choice) :
    exec rd pid (.dir b (.read_text f)) c w = some (text, w) := by
  show (((w.dirs b).file f).map fun content => (content, w.dirs b)).map
    (fun (answer : Text × Dir) => (answer.1, w.setDir b answer.2)) = _
  rw [written, Option.map_some, Option.map_some, World.setDir_self]

/-- Asking for the status of a job that Ray knows. -/
theorem job_status_exec (rd : RayData) (pid : Nat) {id : String} {job : Job} {w : World}
    (known : w.job id = some job) (c : Choice) :
    exec rd pid (.get_job_status id) c w = some (job.status, w) := by
  show (w.job id).map (fun job => (job.status, w)) = _
  rw [known]
  rfl

/-- Operations that reach outside the process can raise. -/
def Op.fallible : Op → Bool
  | .log _ _ | .inc _ | .utcnow | .time | .format_exc | .ulid | .client_ready => false
  | _ => true

/-! ## Operations without an effect on the shared state -/

/-- Nothing but logs and counters changed. -/
structure Quiet (w w' : World) : Prop where
  table : w'.table = w.table
  dirs : w'.dirs = w.dirs
  jobs : w'.jobs = w.jobs
  clock : w'.clock = w.clock
  issued : w'.issued = w.issued

theorem Quiet.trans {w w' w'' : World} (first : Quiet w w') (second : Quiet w' w'') :
    Quiet w w'' where
  table := second.table.trans first.table
  dirs := second.dirs.trans first.dirs
  jobs := second.jobs.trans first.jobs
  clock := second.clock.trans first.clock
  issued := second.issued.trans first.issued

/-- Operations that leave the shared state alone. -/
def quietOp : Op → Bool
  | .log _ _ | .inc _ | .utcnow | .time | .format_exc | .open_session | .get_batch _
  | .list_active_batches | .rollback | .client_ready | .get_job_status _ | .ray_init => true
  | _ => false

theorem quiet_exec {rd : RayData} {pid : Nat} {op : Op} (quiet : quietOp op = true) {c : Choice}
    {w w' : World} {a : op.Res} (executed : exec rd pid op c w = some (a, w')) : Quiet w w' := by
  cases op <;> simp only [quietOp, Bool.false_eq_true] at quiet <;> simp only [exec] at executed
  case log | inc | utcnow | open_session | get_batch | rollback | ray_init =>
    cases executed
    exact ⟨rfl, rfl, rfl, rfl, rfl⟩
  case time | format_exc | client_ready =>
    cases c <;> cases executed
    exact ⟨rfl, rfl, rfl, rfl, rfl⟩
  case list_active_batches =>
    cases c with
    | order rows =>
        obtain ⟨-, same⟩ := Option.ite_none_right_eq_some.1 executed
        cases same
        exact ⟨rfl, rfl, rfl, rfl, rfl⟩
    | _ => cases executed
  case get_job_status id =>
    obtain ⟨job, -, same⟩ := Option.map_eq_some_iff.1 executed
    cases same
    exact ⟨rfl, rfl, rfl, rfl, rfl⟩

/-- What drawing a ULID does to the world. -/
theorem ulid_exec (rd : RayData) (pid : Nat) {c : Choice} {w w' : World} {u : Ulid}
    (executed : exec rd pid .ulid c w = some (u, w')) :
    u ∉ w.issued.map (·.1) ∧ w' = { w with issued := w.issued ++ [(u, pid)] } := by
  cases c with
  | ulid v =>
      obtain ⟨fresh, same⟩ := Option.ite_none_left_eq_some.1 executed
      cases same
      exact ⟨fresh, rfl⟩
  | _ => cases executed

/-- What a submission that reaches Ray does to the world. -/
theorem submit_exec (rd : RayData) (pid : Nat) (entrypoint : String) (env : RuntimeEnv) {c : Choice}
    {w w' : World} {id : (Op.submit_job entrypoint env).Res}
    (executed : exec rd pid (.submit_job entrypoint env) c w = some (id, w')) :
    id ∉ w.jobs.map (·.submission_id) ∧ c = .submission id ∧
      w' = { w with jobs := w.jobs ++ [⟨id, entrypoint, env, .enum "PENDING", none, none⟩] } := by
  cases c with
  | submission submission_id =>
      obtain ⟨fresh, same⟩ := Option.ite_none_left_eq_some.1 executed
      cases same
      exact ⟨fresh, rfl, rfl⟩
  | _ => cases executed

/-- What a commit does to the world. -/
theorem commit_exec (rd : RayData) (pid : Nat) (pending : Pending) {c : Choice} {w w' : World}
    {a : (Op.commit pending).Res} (executed : exec rd pid (.commit pending) c w = some (a, w')) :
    ∃ table, Table.commit w.clock pending w.table = some table ∧ w' = { w with table := table } := by
  obtain ⟨table, committed, same⟩ := Option.map_eq_some_iff.1 executed
  cases same
  exact ⟨table, committed, rfl⟩

/-- **Only a commit changes the table.** -/
theorem exec_table (rd : RayData) (pid : Nat) {op : Op} (notCommit : ∀ pending, op ≠ .commit pending)
    {c : Choice} {w w' : World} {a : op.Res} (executed : exec rd pid op c w = some (a, w')) :
    w'.table = w.table := by
  cases op
  case commit pending => exact absurd rfl (notCommit pending)
  case ulid => rw [(ulid_exec rd pid executed).2]
  case submit_job entrypoint env => rw [(submit_exec rd pid entrypoint env executed).2.2]
  case dir =>
    obtain ⟨d, -, rfl⟩ := dir_exec rd pid executed
    rfl
  all_goals exact (quiet_exec rfl executed).table

/-- The machine that process `pid` runs on. -/
def machine (rd : RayData) (pid : Nat) : Program.Machine Op Op.Res World Choice :=
  ⟨exec rd pid, Op.fallible⟩

/-- A program of one of the processes. -/
abbrev Proc := Program Op Op.Res PyException

abbrev Event := Program.Event PyException Choice

def ask (op : Op) : Proc op.Res := Program.ask op

end KubeRayBatch.Cluster
