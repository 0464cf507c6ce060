/-
# Worker.ExitStatus -- the exit status of a job and its two markers

The success marker is written before the clean-up of the staging directory, which can
still raise, and it is never removed; the handler in `main` adds a failure marker and
returns 1.  Ray then reports FAILED for a batch whose directory says that it succeeded.

* `exit_agrees_iff`: in every directory, the status agrees with the markers exactly when
  no exception that `main` handles finds a success marker, of an earlier run or of its own;
* `exit_contradicts`: a clean-up that raises.
-/
import KubeRayBatch.Worker.Marker

namespace KubeRayBatch.Worker

open Theory Cluster Api

set_option autoImplicit false

/-- Status 0 goes with `_SUCCESS` alone, and status 1 with `_FAILED` alone. -/
structure Agree (code : Nat) (d : Dir) : Prop where
  success : code = 0 ↔ (d.file .success).isSome = true ∧ d.file .failed = none
  failure : code = 1 ↔ (d.file .failed).isSome = true ∧ d.file .success = none

theorem agree_zero {d : Dir} (success : (d.file .success).isSome = true)
    (failed : d.file .failed = none) : Agree 0 d := by
  refine ⟨iff_of_true rfl ⟨success, failed⟩, iff_of_false (by decide) ?_⟩
  rintro ⟨present, -⟩
  rw [failed] at present
  cases present

theorem agree_one_iff {d : Dir} (failed : (d.file .failed).isSome = true) :
    Agree 1 d ↔ d.file .success = none := by
  constructor
  · intro agree
    exact (agree.failure.1 rfl).2
  · intro unmarked
    refine ⟨iff_of_false (by decide) ?_, iff_of_true rfl ⟨failed, unmarked⟩⟩
    rintro ⟨-, absent⟩
    rw [absent] at failed
    cases failed

/-! ## The success marker in a run -/

/-- The operation that starts a success marker. -/
def createMarker (b : String) : Op := .dir b (.create .success)

theorem dir_unmarked {rd : RayData} {op : DirOp} {c : Choice} {d d' : Dir} {a : op.Res}
    (other : op ≠ .create .success) (executed : op.exec rd c d = some (a, d'))
    (unmarked : d.file .success = none) : d'.file .success = none := by
  cases op with
  | create f =>
      obtain ⟨-, same⟩ := Option.ite_none_right_eq_some.1 executed
      cases same
      have notSuccess : .success ≠ f := fun same => other (same ▸ rfl)
      exact (Dir.setFile_other d f .success _ notSuccess).trans unmarked
  | append f chunk =>
      obtain ⟨content, found, same⟩ := Option.map_eq_some_iff.1 executed
      cases same
      by_cases isSuccess : .success = f
      · rw [← isSuccess, unmarked] at found
        cases found
      · exact (Dir.setFile_other d f .success _ isSuccess).trans unmarked
  | unlink f =>
      obtain ⟨content, -, same⟩ := Option.map_eq_some_iff.1 executed
      cases same
      by_cases isSuccess : .success = f
      · rw [← isSuccess]
        exact Dir.setFile_same d .success none
      · exact (Dir.setFile_other d f .success _ isSuccess).trans unmarked
  | promote name =>
      simp only [DirOp.exec] at executed
      split at executed
      · obtain ⟨content, -, same⟩ := Option.map_eq_some_iff.1 executed
        cases same
        exact (Dir.setFile_other d .results .success (some content) (by decide)).trans unmarked
      · cases executed
  | «exists» f | mkdir | mkdir_staging => cases executed; exact unmarked
  | read_text f | create_staged name | read_json =>
      obtain ⟨content, -, same⟩ := Option.map_eq_some_iff.1 executed
      cases same
      exact unmarked
  | rmdir_staging =>
      obtain ⟨-, same⟩ := Option.ite_none_right_eq_some.1 executed
      cases same
      exact unmarked
  | append_staged name chunk | unlink_staged name =>
      simp only [DirOp.exec] at executed
      split at executed
      · obtain ⟨-, same⟩ := Option.ite_none_right_eq_some.1 executed
        cases same
        exact unmarked
      · cases executed
  | glob_staging =>
      cases c with
      | names names =>
          obtain ⟨-, same⟩ := Option.ite_none_right_eq_some.1 executed
          cases same
          exact unmarked
      | _ => cases executed
  | execute plan =>
      cases c with
      | dataset name content =>
          obtain ⟨-, same⟩ := Option.ite_none_right_eq_some.1 executed
          cases same
          exact unmarked
      | _ => cases executed

section Runs

variable {rt : Runtime} {env : Environ} {rd : RayData} {pid : Nat} {b : String}
variable {events : List Event} {w w' : World}

/-- Only its creation brings a success marker into a directory. -/
theorem exec_unmarked {op : Op} {c : Choice} {a : op.Res} (other : op ≠ createMarker b)
    (executed : exec rd pid op c w = some (a, w')) (unmarked : (w.dirs b).file .success = none) :
    (w'.dirs b).file .success = none := by
  cases op
  case dir b' op =>
    obtain ⟨d, performed, rfl⟩ := dir_exec rd pid executed
    by_cases same : b = b'
    · subst same
      rw [World.setDir_same]
      refine dir_unmarked (fun isCreate => other ?_) performed unmarked
      rw [isCreate]
      rfl
    · rw [World.setDir_other w b' b d same]
      exact unmarked
  case commit pending =>
    obtain ⟨table, -, rfl⟩ := commit_exec rd pid pending executed
    exact unmarked
  case ulid => rw [(ulid_exec rd pid executed).2]; exact unmarked
  case submit_job entrypoint runtime_env =>
    rw [(submit_exec rd pid entrypoint runtime_env executed).2.2]
    exact unmarked
  all_goals rw [(quiet_exec rfl executed).dirs]; exact unmarked

/-- A job alone, which never removes a success marker. -/
def marking (b : String) : Contract Op World where
  inv := fun _ => True
  rely := fun _ _ => False
  guar := fun w w' => ((w.dirs b).file .success).isSome = true →
    ((w'.dirs b).file .success).isSome = true
  allowed := fun _ _ => True
  grants := fun _ _ => True

theorem DirStep.marked {Granted : Dir → Text → Prop} {Said : Str → Prop} {d d' : Dir}
    (stepped : DirStep rt Granted Said b d d') (marked : (d.file .success).isSome = true) :
    (d'.file .success).isSome = true := by
  cases stepped with
  | staging made files keeps => exact marked
  | promote content files granted =>
      show ((d.setFile .results (some content)).file .success).isSome = true
      rw [Dir.setFile_other d .results .success (some content) (by decide)]
      exact marked
  | dropFailed =>
      rw [Dir.setFile_other d .failed .success none (by decide)]
      exact marked
  | success content text more model counts x results granted tallied whole =>
      rw [Dir.setFile_same]
      rfl
  | failed text more error traceback x said whole =>
      rw [Dir.setFile_other d .failed .success (some text) (by decide)]
      exact marked

theorem marking_job :
    JobContract rt (fun _ _ => True) (fun _ => True) b (marking b) fun _ => True where
  stable := fun _ _ _ _ _ moved => moved.elim
  allowed := fun _ _ _ _ _ => trivial
  quiet := by
    intro w w' _ _ quiet
    refine ⟨trivial, ?_, trivial⟩
    show ((w.dirs b).file .success).isSome = true → ((w'.dirs b).file .success).isSome = true
    rw [quiet.dirs]
    exact id
  move := by
    intro w d _ _ moved
    refine ⟨trivial, ?_, trivial⟩
    show ((w.dirs b).file .success).isSome = true → (((w.setDir b d).dirs b).file .success).isSome = true
    rw [World.setDir_same]
    exact DirStep.marked moved
  granted := fun _ _ _ _ _ _ _ _ _ => trivial
  said := fun _ _ _ _ _ => trivial

/-- **The marker after a part of a run** of the body: it was there, or it was created. -/
theorem tryBody_marked_iff {args : Arguments} {p : Proc Nat}
    (ran : Program.run (machine rd pid) events (tryBody rt env args) w = some (p, w')) :
    (w'.dirs args.batch_id).file .success = none ↔
      (w.dirs args.batch_id).file .success = none ∧
        ¬ Program.RunPerforms (machine rd pid) (createMarker args.batch_id) events
          (tryBody rt env args) w := by
  obtain ⟨b, model, max_tokens⟩ := args
  constructor
  · intro unmarked
    have outline : DirOutline rd pid b (marking b) (fun _ => True)
        (tryBody rt env ⟨b, model, max_tokens⟩)
        (fun d => d.file .input = (w.dirs b).file .input ∧ d.staging.getD [] = leftovers (w.dirs b))
        _ := tryBody_outline marking_job
    have here : Contract.Holds (machine rd pid) (marking b) (tryBody rt env ⟨b, model, max_tokens⟩)
        _ _ w := ⟨_, fun _ _ _ _ moved => moved.elim, ⟨trivial, rfl, rfl⟩, outline⟩
    have makes := here.run_makes (o := createMarker b)
      (K := fun w => ((w.dirs b).file .success).isSome = true) (fun _ _ kept => kept) ?_ trivial
      (fun _ _ => trivial) ran
    · rw [unmarked] at makes
      refine ⟨?_, fun performs => nomatch makes (.inr performs)⟩
      rw [← Option.not_isSome_iff_eq_none]
      exact fun marked => nomatch makes (.inl marked)
    · intro c s a s' executed
      obtain ⟨d, performed, rfl⟩ := dir_exec rd pid executed
      obtain ⟨-, same⟩ := Option.ite_none_right_eq_some.1 performed
      cases same
      rw [World.setDir_same, Dir.setFile_same]
      rfl
  · rintro ⟨unmarked, never⟩
    exact Program.run_keeps _ (K := fun w => (w.dirs b).file .success = none)
      (fun _ _ _ _ _ other executed => exec_unmarked other executed) ran never unmarked

/-! ## What `main` leaves -/

/-- The status 0 comes with the marker of a run that finished. -/
theorem tryBody_returned {args : Arguments} {code : Nat}
    (ran : Program.run (machine rd pid) events (tryBody rt env args) w = some (.ret code, w')) :
    code = 0 ∧ ((w'.dirs args.batch_id).file .success).isSome = true ∧
      (w'.dirs args.batch_id).file .failed = none := by
  obtain ⟨b, model, max_tokens⟩ := args
  have outline : DirOutline rd pid b solitary (fun _ => True)
      (tryBody rt env ⟨b, model, max_tokens⟩)
      (fun d => d.file .input = (w.dirs b).file .input ∧ d.staging.getD [] = leftovers (w.dirs b))
      _ := tryBody_outline (solitary_job rt b)
  have here : Contract.Holds (machine rd pid) solitary (tryBody rt env ⟨b, model, max_tokens⟩) _ _ w :=
    ⟨_, fun _ _ _ _ moved => moved.elim, ⟨trivial, rfl, rfl⟩, outline⟩
  obtain ⟨-, isZero, o, counts, -, finished⟩ := (here.run trivial (fun _ _ => trivial) ran).2.returned trivial
  refine ⟨isZero, ?_, finished.failed⟩
  rw [finished.success]
  rfl

/-- The handler leaves a failure marker, and the success marker as it was. -/
theorem writeFailure_returned {exc : PyException} {code : Nat}
    (ran : Program.run (machine rd pid) events (writeFailure b exc) w = some (.ret code, w')) :
    code = 1 ∧ ((w'.dirs b).file .failed).isSome = true ∧
      (w'.dirs b).file .success = (w.dirs b).file .success := by
  have outline : DirOutline rd pid b solitary (fun _ => True) (writeFailure b exc)
      (fun d => d.file .success = (w.dirs b).file .success) _ :=
    writeFailure_outline (solitary_job .ascii b) exc (fun _ same => same) fun d content same =>
      (Dir.setFile_other d .failed .success content (by decide)).trans same
  have here : Contract.Holds (machine rd pid) solitary (writeFailure b exc) _ _ w :=
    ⟨_, fun _ _ _ _ moved => moved.elim, ⟨trivial, rfl⟩, outline⟩
  exact ((here.run trivial (fun _ _ => trivial) ran).2.returned trivial).2

/-- **key theorem.** Whatever directory a job starts in and whichever of its steps raises,
its exit status agrees with the markers exactly when no exception of the body finds a
success marker: there was none at the start, and the run had not created one yet. -/
theorem exit_agrees_iff {argv : List Text} {args : Arguments} {code : Nat}
    (parsed : parse_args env.DEFAULT_MODEL argv = .ok args)
    (ran : Program.run (machine rd pid) events (main rt env argv) w = some (.ret code, w')) :
    Agree code (w'.dirs args.batch_id) ↔
      ∀ before after exc t, events = before ++ after →
        Program.run (machine rd pid) before (tryBody rt env args) w = some (.raise exc, t) →
        (w.dirs args.batch_id).file .success = none ∧
          ¬ Program.RunPerforms (machine rd pid) (createMarker args.batch_id) before
            (tryBody rt env args) w := by
  unfold main at ran
  rw [parsed] at ran
  have caught : Program.run (machine rd pid) events (runJob rt env args) w = some (.ret code, w') := ran
  rw [runJob] at caught
  rcases Program.run_catching_cases _ caught with returned | ⟨before, after, exc, t, whole, raised, handled⟩
  · obtain ⟨rfl, success, failed⟩ := tryBody_returned returned
    refine iff_of_true (agree_zero success failed) ?_
    rintro before after exc t rfl raised
    have nothing := Program.run_raised _ raised returned
    rw [nothing, List.append_nil] at returned
    cases raised.symm.trans returned
  · by_cases isException : exc.isinstance .exception = true
    · rw [if_pos isException, Option.getD_some] at handled
      obtain ⟨rfl, failed, kept⟩ := writeFailure_returned handled
      rw [agree_one_iff failed, kept, tryBody_marked_iff raised]
      constructor
      · intro unmarked before' after' exc' t' whole' raised'
        -- a run raises at one place only
        have same : before' = before := Program.raised_unique _ raised' raised (whole'.symm.trans whole)
        rw [same]
        exact unmarked
      · intro unmarked
        exact unmarked before after exc t whole raised
    · rw [if_neg isException, Option.getD_none] at handled
      cases after with
      | nil => cases handled
      | cons event after => cases handled

end Runs

/-! ## A clean-up that raises -/

def permissionError : PyException :=
  ⟨.builtin "PermissionError", [.osError, .exception, .baseException], .ofText "_staging".toList, none⟩

/-- Everything succeeds but the removal of the staging directory. -/
def clumsy : (op : Op) → World → Event
  | .dir _ .rmdir_staging, _ => ⟨.refused permissionError, .go⟩
  | .format_exc, _ => ⟨.done, .text []⟩
  | op, w => smooth "a.json" okLine op w

/-- Ray raises before the results are written. -/
def starved : (op : Op) → World → Event
  | .dir _ (.execute _), _ => ⟨.refused (.runtimeError "out of memory"), .go⟩
  | .format_exc, _ => ⟨.done, .text []⟩
  | op, w => smooth "a.json" okLine op w

/-- An exception that comes before the success marker. -/
theorem exit_agrees_starved : ∃ (events : List Event) (w' : World),
    Program.run (machine flakyRay 0) events sampleMain (submitted "batch_1" [hi]) =
        some (.ret 1, w') ∧
      Agree 1 (w'.dirs "batch_1") ∧
        ∀ before after exc t, events = before ++ after →
          Program.run (machine flakyRay 0) before (tryBody .ascii sampleEnv sampleArgs)
            (submitted "batch_1" [hi]) = some (.raise exc, t) →
          ((submitted "batch_1" [hi]).dirs "batch_1").file .success = none ∧
            ¬ Program.RunPerforms (machine flakyRay 0) (createMarker "batch_1") before
              (tryBody .ascii sampleEnv sampleArgs) (submitted "batch_1" [hi]) := by
  have value : (Program.perform (machine flakyRay 0) starved sampleMain
      (submitted "batch_1" [hi])).map (fun result => (result.1.toOption,
        ((result.2.dirs "batch_1").file .failed).isSome, (result.2.dirs "batch_1").file .success)) =
      some (some 1, true, none) := by decide +kernel
  obtain ⟨⟨result, w'⟩, performed, same⟩ := Option.map_eq_some_iff.1 value
  obtain ⟨isOne, marked⟩ := Prod.mk.inj same
  obtain ⟨failed, unmarked⟩ := Prod.mk.inj marked
  cases result with
  | error exc => cases isOne
  | ok code =>
      cases isOne
      obtain ⟨events, ran⟩ := Program.run_of_perform _ _ performed
      have agree := (agree_one_iff failed).2 unmarked
      exact ⟨events, w', ran, agree, (exit_agrees_iff sample_parsed ran).1 agree⟩

/-- Ray reports FAILED, and the directory says that the batch succeeded and that it failed. -/
theorem exit_contradicts :
    ¬ ∀ (rt : Runtime) (env : Environ) (rd : RayData) (pid : Nat) (argv : List Text)
      (args : Arguments) (runs : List Arguments) (events : List Event) (w w' : World) (p : Proc Nat)
      (code : Nat), parse_args env.DEFAULT_MODEL argv = .ok args →
      Attempts rt env rd pid runs args.batch_id (fun _ _ => True) w p →
      Program.run (machine rd pid) events (main rt env argv) w = some (.ret code, w') →
      Agree code (w'.dirs args.batch_id) := by
  intro agrees
  have value : (Program.perform (machine flakyRay 0) clumsy sampleMain
      (submitted "batch_1" [hi])).map (fun result =>
        (result.1.toOption, ((result.2.dirs "batch_1").file .success).isSome)) =
      some (some 1, true) := by decide +kernel
  obtain ⟨⟨result, w'⟩, performed, same⟩ := Option.map_eq_some_iff.1 value
  obtain ⟨isOne, marked⟩ := Prod.mk.inj same
  cases result with
  | error exc => cases isOne
  | ok code =>
      cases isOne
      obtain ⟨events, ran⟩ := Program.run_of_perform _ _ performed
      have agree := agrees .ascii sampleEnv flakyRay 0 sampleArgv sampleArgs _ events _ w'
        _ 1 sample_parsed sample_start ran
      have unmarked : (w'.dirs "batch_1").file .success = none := (agree.failure.1 rfl).2
      rw [unmarked] at marked
      cases marked

end KubeRayBatch.Worker
