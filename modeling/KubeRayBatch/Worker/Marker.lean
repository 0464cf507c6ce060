/-
# Worker.Marker -- what a complete `_SUCCESS` record says about the results

`Attempts` is every state of a batch directory that a sequence of `main`
invocations reaches, step by step: each invocation may return, raise or be killed
between any two of its steps, and the next one starts in what is left.

The marker of an earlier run stays in place while a later run replaces the
results, so between the rename and the rewritten marker the old counts stand next
to the new file.  `marker_true` is the reach of the promise: as long as every
rename promotes a complete output, and replaces results with the same counts where
a complete record is still there, the marker tells the truth in every state.
-/
import KubeRayBatch.Worker.Rerun

namespace KubeRayBatch.Worker

open Theory Cluster Api

set_option autoImplicit false

/-- An output that one of the invocations writes as a whole: a file of its plan for the rows
that it reads in the input file. -/
def WholeOutput (rd : RayData) (runs : List Arguments) (input : Option Text) (content : Text) : Prop :=
  ∃ args ∈ runs, ∃ text rows name, input = some text ∧ rd.read_json text = some rows ∧
    rd.may_write (planOf rows args.model args.max_tokens) name content = true

/-- A decoded `_SUCCESS` record shows the tally of this content. -/
structure Shows (rt : Runtime) (marker : Json.Value) (content : Text) (counts : Nat × Nat) : Prop where
  tallied : tallyOf rt content = .ok counts
  completed : dictGet marker "completed" .null = .ok (.int counts.1)
  failed : dictGet marker "failed" .null = .ok (.int counts.2)

/-- A complete record in `_SUCCESS` belongs to the results next to it. -/
def MarkerTrue (rt : Runtime) (rd : RayData) (runs : List Arguments) (d : Dir) : Prop :=
  ∀ text marker, d.file .success = some text → Json.loads text = some marker →
    ∃ content counts, d.file .results = some content ∧ WholeOutput rd runs (d.file .input) content ∧
      Shows rt marker content counts

/-- A file that may be promoted into the directory: a complete output.  Where a complete
record is still there, the results that it replaces have the same counts. -/
structure Promotable (rt : Runtime) (rd : RayData) (runs : List Arguments) (d : Dir) (content : Text) :
    Prop where
  whole : WholeOutput rd runs (d.file .input) content
  agrees : ∀ text marker old, d.file .success = some text → Json.loads text = some marker →
    d.file .results = some old → tallyOf rt content = tallyOf rt old

/-- What is asked of an operation of a run: a rename promotes a promotable file. -/
def RenamesPromotable (rt : Runtime) (rd : RayData) (runs : List Arguments) (b : String) (op : Op)
    (w : World) : Prop :=
  ∀ name files content, op = .dir b (.promote name) → (w.dirs b).staging = some files →
    files.lookup name = some content → Promotable rt rd runs (w.dirs b) content

section

variable (rt : Runtime) (env : Environ) (rd : RayData) (pid : Nat) (runs : List Arguments) (b : String)

/-- The states of a sequence of `main` invocations on one batch, whose operations all
meet a condition; `runs` are the arguments of the invocations. -/
inductive Attempts (Meets : Op → World → Prop) : World → Proc Nat → Prop where
  | start {w : World} (unmarked : (w.dirs b).file .success = none) : Attempts Meets w (.ret 0)
  | launch {w : World} {p : Proc Nat} {argv : List Text} {args : Arguments}
      (before : Attempts Meets w p) (parsed : parse_args env.DEFAULT_MODEL argv = .ok args)
      (invoked : args ∈ runs) (same : args.batch_id = b) : Attempts Meets w (main rt env argv)
  | step {w w' : World} {p p' : Proc Nat} {event : Event} (before : Attempts Meets w p)
      (meets : ∀ op, Program.Performs p event op → Meets op w)
      (stepped : Program.step (machine rd pid) p event w = some (p', w')) : Attempts Meets w' p'

/-- One invocation at a time, every rename promotable; nobody writes the input file. -/
def truthful (input : Option Text) : Contract Op World where
  inv := fun w => (w.dirs b).file .input = input ∧ MarkerTrue rt rd runs (w.dirs b)
  rely := fun _ _ => False
  guar := fun _ _ => True
  allowed := fun _ _ => True
  grants := RenamesPromotable rt rd runs b

end

section Truth

variable {rt : Runtime} {env : Environ} {rd : RayData} {pid : Nat} {runs : List Arguments}
variable {b : String} {input : Option Text}

/-- Only the input, the results and the `_SUCCESS` file matter. -/
theorem MarkerTrue.frame {d d' : Dir} (holds : MarkerTrue rt rd runs d)
    (prompts : d'.file .input = d.file .input) (success : d'.file .success = d.file .success)
    (results : d'.file .results = d.file .results) : MarkerTrue rt rd runs d' := by
  intro text marker written decoded
  obtain ⟨content, counts, found, whole, shown⟩ := holds text marker (success ▸ written) decoded
  exact ⟨content, counts, results.trans found, prompts ▸ whole, shown⟩

theorem shows_successRecord {model : String} {counts : Counts} {x : Json.Float} {content : Text}
    (tallied : tallyOf rt content = .ok (counts.completed, counts.failed)) :
    Shows rt (.obj (Json.decoded (successRecord b model counts x))) content
      (counts.completed, counts.failed) :=
  ⟨tallied, successRecord_completed b model counts x .null, successRecord_failed b model counts x .null⟩

/-- What a promotion into a directory with this input file was granted. -/
def Granting (rt : Runtime) (rd : RayData) (runs : List Arguments) (input : Option Text) (d : Dir)
    (content : Text) : Prop :=
  d.file .input = input ∧ Promotable rt rd runs d content

/-- **One step of a job** keeps the marker true. -/
theorem MarkerTrue.step {d d' : Dir} (holds : MarkerTrue rt rd runs d) (prompts : d.file .input = input)
    (stepped : DirStep rt (Granting rt rd runs input) (fun _ => True) b d d') :
    MarkerTrue rt rd runs d' := by
  have prompts' := stepped.input
  cases stepped with
  | staging made files keeps => exact holds.frame rfl rfl rfl
  | promote content files granted =>
      intro text marker written decoded
      have before : d.file .success = some text :=
        (Dir.setFile_other d .results .success (some content) (by decide)).symm.trans written
      -- the record shows the counts of the results that are replaced
      obtain ⟨old, counts, results, -, shown⟩ := holds text marker before decoded
      have same := granted.2.agrees text marker old before decoded results
      exact ⟨content, counts, Dir.setFile_same d .results (some content), prompts' ▸ granted.2.whole,
        same.trans shown.tallied, shown.completed, shown.failed⟩
  | dropFailed =>
      exact holds.frame prompts' (Dir.setFile_other d .failed .success none (by decide))
        (Dir.setFile_other d .failed .results none (by decide))
  | success content text more model counts x results granted tallied whole =>
      obtain ⟨before, prompts'', promotable⟩ := granted
      have wholeOutput := promotable.whole
      rw [prompts'', ← prompts, ← prompts'] at wholeOutput
      intro text' marker written decoded
      have same : text = text' :=
        Option.some.inj ((Dir.setFile_same d .success (some text)).symm.trans written)
      subst same
      have kept : (d.setFile .success (some text)).file .results = some content :=
        (Dir.setFile_other d .success .results (some text) (by decide)).trans results
      refine ⟨content, (counts.completed, counts.failed), kept, wholeOutput, ?_⟩
      -- a torn record does not decode, so this is the whole of it
      cases more with
      | cons c more =>
          rw [Json.loads_proper_prefix whole (by simp)] at decoded
          cases decoded
      | nil =>
          rw [List.append_nil] at whole
          rw [whole, Json.loads_dumps] at decoded
          cases decoded
          exact shows_successRecord tallied
  | failed text more error traceback x said whole =>
      exact holds.frame prompts' (Dir.setFile_other d .failed .success (some text) (by decide))
        (Dir.setFile_other d .failed .results (some text) (by decide))

theorem truthful_job : JobContract rt (Granting rt rd runs input) (fun _ => True) b
    (truthful rt rd runs b input) fun _ => True where
  stable := fun _ _ _ _ _ moved => moved.elim
  allowed := fun _ _ _ _ _ => trivial
  quiet := by
    intro w w' safe _ quiet
    refine ⟨?_, trivial, trivial⟩
    change (w'.dirs b).file .input = input ∧ MarkerTrue rt rd runs (w'.dirs b)
    rw [quiet.dirs]
    exact safe
  move := by
    intro w d safe _ moved
    refine ⟨?_, trivial, trivial⟩
    change ((w.setDir b d).dirs b).file .input = input ∧ MarkerTrue rt rd runs ((w.setDir b d).dirs b)
    rw [World.setDir_same]
    exact ⟨moved.input.trans safe.1, MarkerTrue.step safe.2 safe.1 moved⟩
  granted := fun w name files content safe _ granted staged found =>
    ⟨safe.1, granted name files content rfl staged found⟩
  said := fun _ _ _ _ _ => trivial

/-- Every invocation follows its outline from whatever it starts in. -/
theorem main_holds {argv : List Text} {args : Arguments}
    (parsed : parse_args env.DEFAULT_MODEL argv = .ok args) (same : args.batch_id = b) (w : World) :
    Contract.Holds (machine rd pid) (truthful rt rd runs b input) (main rt env argv) (fun _ _ => True)
      (fun _ _ => True) w := by
  obtain ⟨id, model, max_tokens⟩ := args
  have isBatch : id = b := same
  subst isBatch
  have outline : DirOutline rd pid id (truthful rt rd runs id input) (fun _ => True)
      (runJob rt env ⟨id, model, max_tokens⟩)
      (fun d => d.file .input = (w.dirs id).file .input ∧ d.staging.getD [] = leftovers (w.dirs id))
      _ := runJob_outline truthful_job
  refine ⟨fun w' => w'.dirs id = w.dirs id, fun _ _ _ _ moved => moved.elim, rfl, ?_⟩
  unfold main
  rw [parsed]
  exact Contract.Outline.weaken outline (fun w' _ here => by simp [here, leftovers])
    (fun _ _ _ _ => trivial) fun _ _ _ _ => trivial

theorem attempts_hold {w : World} {p : Proc Nat}
    (reached : Attempts rt env rd pid runs b (RenamesPromotable rt rd runs b) w p) :
    ∃ input, (truthful rt rd runs b input).inv w ∧
      Contract.Holds (machine rd pid) (truthful rt rd runs b input) p (fun _ _ => True) (fun _ _ => True)
        w := by
  induction reached with
  | start unmarked =>
      refine ⟨_, ⟨rfl, fun text marker written _ => ?_⟩, fun _ => True, fun _ _ _ _ moved => moved.elim,
        trivial, fun _ _ _ => trivial⟩
      rw [unmarked] at written
      cases written
  | launch before parsed invoked same ih =>
      obtain ⟨input, safe, -⟩ := ih
      exact ⟨input, safe, main_holds parsed same _⟩
  | step before meets stepped ih =>
      obtain ⟨input, safe, here⟩ := ih
      obtain ⟨safe', -, here'⟩ := here.step safe meets stepped
      exact ⟨input, safe', here'⟩

/-- **key theorem.** The marker tells the truth in every state of a history whose
renames are promotable. -/
theorem marker_true {w : World} {p : Proc Nat}
    (reached : Attempts rt env rd pid runs b (RenamesPromotable rt rd runs b) w p) :
    MarkerTrue rt rd runs (w.dirs b) := by
  obtain ⟨input, safe, -⟩ := attempts_hold reached
  exact safe.2

/-- A run whose operations all pass a check extends a history. -/
theorem Attempts.run {Meets : Op → World → Prop} {check : Op → World → Bool}
    (sound : ∀ op w, check op w = true → Meets op w) {events : List Event} {p p' : Proc Nat}
    {w w' : World} (before : Attempts rt env rd pid runs b Meets w p)
    (ran : Program.run ((machine rd pid).restrict check) events p w = some (p', w')) :
    Attempts rt env rd pid runs b Meets w' p' := by
  induction events generalizing p w with
  | nil => cases ran; exact before
  | cons event events ih =>
      simp only [Program.run] at ran
      split at ran
      · rename_i q t stepped
        obtain ⟨stepped, passes⟩ := Program.step_of_restrict _ stepped
        exact ih (before.step (fun op performed => sound op w (passes op performed)) stepped) ran
      · cases ran

end Truth

/-! ## Concrete histories -/

def errLine : Text := "\x7b\"error\": \"RuntimeError: out of memory\"\x7d\n".toList

/-- A Ray whose actors fail on some runs and not on others. -/
def flakyRay : RayData where
  read_json := fun _ => some [⟨"0", "hi"⟩]
  may_write := fun plan _ c => plan.rows == [⟨"0", "hi"⟩] && (c == okLine || c == errLine)

def sampleArgv : List Text :=
  ["--batch-id".toList, "batch_1".toList, "--model".toList, "m".toList, "--max-tokens".toList,
    "16".toList]

def sampleArgs : Arguments := ⟨"batch_1", "m", 16⟩

def sampleMain : Proc Nat := main .ascii sampleEnv sampleArgv

theorem sample_parsed : parse_args sampleEnv.DEFAULT_MODEL sampleArgv = .ok sampleArgs := by
  decide +kernel

theorem sample_start {Meets : Op → World → Prop} :
    Attempts .ascii sampleEnv flakyRay 0 [sampleArgs] "batch_1" Meets (submitted "batch_1" [hi])
      sampleMain :=
  .launch (.start rfl) sample_parsed (List.mem_singleton_self _) rfl

/-- A rename of a complete output, over nothing or over the same results. -/
def sameResults (op : Op) (w : World) : Bool :=
  match op with
  | .dir _ (.promote _) => ((w.dirs "batch_1").file .input).isSome &&
      (((w.dirs "batch_1").file .results).getD okLine == okLine &&
        ((w.dirs "batch_1").staging.getD []).all fun file => file.2 == okLine)
  | _ => true

theorem sameResults_promotable (op : Op) (w : World) (passes : sameResults op w = true) :
    RenamesPromotable .ascii flakyRay [sampleArgs] "batch_1" op w := by
  rintro name files content rfl staged found
  simp only [sameResults, staged, Option.getD_some, Bool.and_eq_true, List.all_eq_true,
    Option.isSome_iff_exists] at passes
  obtain ⟨⟨input, prompts⟩, same, whole⟩ := passes
  obtain ⟨before, after, rfl, -⟩ := List.lookup_eq_some_iff.1 found
  have ok : content = okLine := by simpa using whole (name, content) (by simp)
  refine ⟨⟨sampleArgs, List.mem_singleton_self _, input, _, name, prompts, rfl, ?_⟩, ?_⟩
  · simp [flakyRay, planOf, ok]
  · intro text marker old _ _ results
    rw [results, Option.getD_some, beq_iff_eq] at same
    rw [ok, same]

/-- After two complete runs, the second one over the record of the first, the marker shows the
counts of the results. -/
theorem marker_true_again : ∃ w' : World,
    ((w'.dirs "batch_1").file .success).isSome ∧
      MarkerTrue .ascii flakyRay [sampleArgs] (w'.dirs "batch_1") := by
  have value : ((Program.perform ((machine flakyRay 0).restrict sameResults) (smooth "a.json" okLine)
      sampleMain (submitted "batch_1" [hi])).bind fun first =>
      (Program.perform ((machine flakyRay 0).restrict sameResults) (smooth "b.json" okLine) sampleMain
        first.2).map fun second => ((second.2.dirs "batch_1").file .success).isSome) = some true := by
    decide +kernel
  obtain ⟨⟨result, w⟩, performed, rest⟩ := Option.bind_eq_some_iff.1 value
  obtain ⟨⟨result', w'⟩, performed', marked⟩ := Option.map_eq_some_iff.1 rest
  obtain ⟨events, ran⟩ := Program.run_of_perform _ _ performed
  obtain ⟨events', ran'⟩ := Program.run_of_perform _ _ performed'
  have first := sample_start.run sameResults_promotable ran
  have second := (first.launch sample_parsed (List.mem_singleton_self _) rfl).run sameResults_promotable ran'
  exact ⟨w', marked, marker_true second⟩

/-- A second run, killed right after its rename. -/
def killedAfterRename : List Event :=
  List.replicate 9 ⟨.done, .go⟩ ++ [⟨.done, .dataset "b.json" errLine⟩] ++
    List.replicate (1 + errLine.length) ⟨.done, .go⟩ ++
    [⟨.done, .names ["b.json"]⟩, ⟨.done, .go⟩]

/-- The `completed` entry of a decoded marker. -/
def completedOf (marker : Json.Value) : Option Int :=
  match dictGet marker "completed" .null with
  | .ok (.int n) => some n
  | _ => none

/-- The old record next to the new results. -/
theorem marker_lies :
    ¬ ∀ (rt : Runtime) (env : Environ) (rd : RayData) (pid : Nat) (runs : List Arguments) (b : String)
      (w : World) (p : Proc Nat), Attempts rt env rd pid runs b (fun _ _ => True) w p →
        MarkerTrue rt rd runs (w.dirs b) := by
  intro truth
  have value : ((Program.perform ((machine flakyRay 0).restrict fun _ _ => true)
      (smooth "a.json" okLine) sampleMain (submitted "batch_1" [hi])).bind fun first =>
      (Program.run ((machine flakyRay 0).restrict fun _ _ => true) killedAfterRename sampleMain
        first.2).map fun second =>
          ((second.2.dirs "batch_1").file .results,
            ((second.2.dirs "batch_1").file .success).bind fun text =>
              (Json.loads text).bind completedOf)) =
      some (some errLine, some 1) := by decide +kernel
  obtain ⟨⟨result, w⟩, performed, rest⟩ := Option.bind_eq_some_iff.1 value
  obtain ⟨⟨p, w'⟩, killed, same⟩ := Option.map_eq_some_iff.1 rest
  obtain ⟨results, success⟩ := Prod.mk.inj same
  obtain ⟨text, written, decodes⟩ := Option.bind_eq_some_iff.1 success
  obtain ⟨marker, decoded, completed⟩ := Option.bind_eq_some_iff.1 decodes
  obtain ⟨events, ran⟩ := Program.run_of_perform _ _ performed
  have first : Attempts .ascii sampleEnv flakyRay 0 [sampleArgs] "batch_1" (fun _ _ => True) w _ :=
    sample_start.run (fun _ _ _ => trivial) ran
  have again : Attempts .ascii sampleEnv flakyRay 0 [sampleArgs] "batch_1" (fun _ _ => True) w sampleMain :=
    first.launch sample_parsed (List.mem_singleton_self _) rfl
  obtain ⟨content, counts, found, -, shown⟩ :=
    truth _ _ _ _ _ _ _ _ (again.run (fun _ _ _ => trivial) killed) text marker written decoded
  rw [← Option.some.inj (results.symm.trans found)] at shown
  -- the results have no row without an error, the record counts one
  have tallied : tallyOf .ascii errLine = .ok (0, 1) := by decide
  have none : counts = (0, 1) := Except.ok.inj (shown.tallied.symm.trans tallied)
  have zero := shown.completed
  rw [none] at zero
  simp [completedOf, zero] at completed

end KubeRayBatch.Worker
