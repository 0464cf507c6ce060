/-
# Cluster.Sweep -- the programs of the poller keep their contract

One lemma for each function of the poller, from the answer of Ray to the round of the
loop.  The loop over the listed rows carries what is known of the rows still to come
(`Listed`); updating one of them leaves the others alone.
-/
import KubeRayBatch.Cluster.Poller

namespace KubeRayBatch.Cluster

open Theory Api Worker

set_option autoImplicit false

variable {D : Deployment} {A : Assumed} {pid : Nat} {b job_id : String} {n : Nat}

/-! ## Asking Ray -/

theorem get_status_follows :
    Follows D A (.poller pid) pid b (get_status D.rt job_id) (Polling A job_id n fun _ _ _ => True)
      (fun answer v => (∃ status : BatchStatus, answer = status.literal) ∧
        Polling A job_id n (fun row _ job => Answered D A answer row job) v) fun _ => True := by
  refine Follows.read (o := .client_ready) (R := fun _ => Polling A job_id n fun _ _ _ => True)
    (fun _ => stable_polling (Lasting.const True)) stable_true (fun _ _ _ => trivial)
    (fun _ _ _ _ => trivial) (idle_quiet rfl) (fun _ _ _ _ _ holds _ => holds) fun (ready : Bool) => ?_
  cases ready with
  | false => exact Follows.raise fun _ _ _ _ => trivial
  | true =>
      refine Follows.read (o := .get_job_status job_id) (R := fun (raw : RayStatus) =>
          Polling A job_id n fun row _ job => Answered D A (map_status D.rt raw) row job)
        (fun _ => stable_polling (lasting_answered _)) stable_true (fun _ _ _ => trivial)
        (fun _ _ _ _ => trivial) (idle_quiet rfl) ?_ fun (raw : RayStatus) =>
          Follows.ret fun _ _ _ holds => ⟨map_status_literal D.rt raw, holds⟩
      rintro c w raw w' inv ⟨row, found, isId, count, active, -⟩ executed
      obtain ⟨job, known, same⟩ := Option.map_eq_some_iff.1 executed
      cases same
      have sound := inv.sound b
      obtain ⟨j, isJob, rfl⟩ := (sound.row row found).attached job_id isId
      have listed := job_of_mem inv.distinct (jobOf_mem isJob)
      obtain rfl : job = j := Option.some.inj (known.symm.trans listed)
      refine ⟨row, found, isId, count, active, ?_, ?_, ?_⟩
      · exact fun alone forward => (sound.row row found).behind alone forward (by simp [isId]) job isJob
      · intro _ j same
        cases isJob.symm.trans same
        exact Behind.refl _
      · exact fun honest completed =>
          ⟨job, isJob, (sound.job row job found isJob).succeeded honest completed⟩

/-! ## The updates -/

/-- The commit of an update that a poller may make. -/
theorem commit_follows {φ : Batch → Dir → Option Job → Prop} {changes : Changes}
    (polled : ∀ now row dir job, RowSound D A b now dir job row → row.ray_job_id = some job_id →
      (A.alone = true → isActive row.status = true) →
      φ row dir job →
      Polled D A b dir job row (changes.apply now row)) :
    Follows D A (.poller pid) pid b (ask (.commit (.update b changes))) (Polling A job_id n φ)
      (fun _ _ => True) fun _ => True := by
  refine Follows.writes (o := .commit (.update b changes)) (fun _ => stable_true) stable_true
    (fun _ _ _ => trivial) (fun _ _ _ _ => trivial) (does_update ?_)
  rintro now v sound ⟨row, found, isId, count, active, holds⟩
  refine ⟨row, found, .poll pid row _ found ?_, trivial, trivial⟩
  exact polled now row v.dir v.job (sound.row row found) isId active holds

/-- A transaction of the poller: what was loaded is `Loaded` from then on. -/
theorem poll_transaction {φ : Batch → Dir → Option Job → Prop} (lasting : Lasting D A b φ)
    {body : Option Batch → Proc (Pending × Unit)} {S : Batch → Pending → Prop}
    (inside : ∀ loaded, Follows D A (.poller pid) pid b (body (some loaded))
      (Polling A job_id n fun row dir job => φ row dir job ∧ Loaded A loaded row)
      (fun said v => S loaded said.1 ∧
        Polling A job_id n (fun row dir job => φ row dir job ∧ Loaded A loaded row) v)
      fun _ => True)
    (commit : ∀ loaded pending, S loaded pending →
      Follows D A (.poller pid) pid b (ask (.commit pending))
        (Polling A job_id n fun row dir job => φ row dir job ∧ Loaded A loaded row)
        (fun _ _ => True) fun _ => True) :
    Follows D A (.poller pid) pid b
      (session_scope do
        let row : Option Batch ← ask (.get_batch b)
        body row)
      (Polling A job_id n φ) (fun _ _ => True) fun _ => True := by
  refine Follows.transaction (Z := fun _ => True)
    (L := fun loaded => Polling A job_id n fun row dir job => φ row dir job ∧ Loaded A loaded row)
    (S := fun loaded pending v => S loaded pending ∧
      Polling A job_id n (fun row dir job => φ row dir job ∧ Loaded A loaded row) v)
    (stable_polling lasting) (fun loaded => stable_polling (lasting.and (lasting_loaded loaded)))
    stable_true (fun _ _ _ _ => trivial) (fun _ present => present) (fun _ polling => polling.present)
    ?_ inside fun loaded pending => Follows.const_elim (commit loaded pending)
  rintro v loaded ⟨row, found, isId, count, active, holds⟩ found'
  cases found.symm.trans found'
  exact ⟨loaded, found, isId, count, active, holds, Loaded.now loaded⟩

theorem update_status_follows {answer : String}
    (literal : ∃ status : BatchStatus, answer = status.literal)
    (notTerminal : answer ∉ TERMINAL_STATUSES) :
    Follows D A (.poller pid) pid b (_update_status_only b answer)
      (Polling A job_id n fun row _ job => Answered D A answer row job) (fun _ _ => True)
      fun _ => True := by
  refine poll_transaction (lasting_answered answer) (S := fun loaded pending =>
    pending = .clean ∨ pending = .update b (loaded.changes { loaded with status := answer })) ?_ ?_
  · intro loaded
    by_cases same : loaded.status = answer
    · simp only [if_pos same]
      exact Follows.ret fun _ _ _ holds => ⟨.inl rfl, holds⟩
    · simp only [if_neg same]
      exact Follows.ret fun _ _ _ holds => ⟨.inr rfl, holds⟩
  · rintro loaded pending (rfl | rfl)
    · exact (Follows.reads stable_true stable_true (fun _ _ _ => by trivial)
        (fun _ _ _ _ => trivial) idle_clean).pre fun _ _ _ _ => trivial
    · exact commit_follows fun now row dir job sound isId active holds =>
        polled_status sound isId active holds.2 holds.1 literal notTerminal

/-- What a poller knows when it applies a terminal answer. -/
def Ending (D : Deployment) (A : Assumed) (answer : String) (ended : Nat) (row : Batch)
    (job : Option Job) : Prop :=
  Answered D A answer row job ∧ (A.clock = true → row.created_at ≤ ended)

theorem lasting_ending (answer : String) (ended : Nat) :
    Lasting D A b fun row _ job => Ending D A answer ended row job :=
  (lasting_answered answer).and (lasting_dated ended)

/-- The counts are those of the job, if it has exited as Ray says. -/
def Told (D : Deployment) (A : Assumed) (b : String) (completed failed : Nat) (row : Batch) (dir : Dir)
    (job : Option Job) : Prop :=
  A.honest = true → ∃ counts, Final D b dir job row counts ∧ completed = counts.completed ∧
    failed = counts.failed

theorem lasting_told (completed failed : Nat) : Lasting D A b (Told D A b completed failed) :=
  Lasting.imp _ (Lasting.exists_ fun counts => (Lasting.final counts).and (Lasting.const _))

theorem apply_success_follows {marker : Json.Value} {completed failed ended : Nat}
    (completedIs : (dictGet marker "completed" (.int 0)).bind (pyInt D.rt) = .ok (completed : Int))
    (failedIs : (dictGet marker "failed" (.int 0)).bind (pyInt D.rt) = .ok (failed : Int)) :
    Follows D A (.poller pid) pid b (_apply_success D.rt b marker ended)
      (Polling A job_id n fun row dir job =>
        Ending D A "completed" ended row job ∧ Told D A b completed failed row dir job)
      (fun _ _ => True) fun _ => True := by
  have lasting : Lasting D A b fun row dir job =>
      Ending D A "completed" ended row job ∧ Told D A b completed failed row dir job :=
    (lasting_ending "completed" ended).and (lasting_told completed failed)
  refine poll_transaction lasting (S := fun loaded pending =>
    pending = .update b (loaded.changes
      { loaded with
        status := "completed"
        completed_count := completed
        failed_count := failed
        completed_at := some ended })) ?_ ?_
  · intro loaded
    simp only [completedIs, failedIs, Api.lift]
    exact Follows.pass (o := .inc _) (idle_quiet rfl)
      (stable_polling (lasting.and (lasting_loaded loaded))) stable_true (fun _ => by trivial)
      (fun _ _ _ _ => trivial) fun _ => Follows.ret fun _ _ _ holds => ⟨rfl, holds⟩
  · rintro loaded pending rfl
    refine commit_follows fun now row dir job sound isId active known => ?_
    obtain ⟨⟨ending, told⟩, before⟩ := known
    exact polled_success sound isId active before ending.1 told ending.2

/-- The column stores the error that is assigned, or refuses it. -/
theorem apply_terminal_follows {answer : String} {error : Json.Value} {ended : Nat}
    (which : ∀ text, errorColumn error = .ok text →
      answer = "failed" ∧ (∃ error, text = some error ∧ A.Says error) ∨
        answer = "cancelled" ∧ text = none) :
    Follows D A (.poller pid) pid b (_apply_terminal b answer error ended)
      (Polling A job_id n fun row _ job => Ending D A answer ended row job) (fun _ _ => True)
      fun _ => True := by
  refine poll_transaction (lasting_ending answer ended) (S := fun loaded pending =>
    ∃ text, errorColumn error = .ok text ∧ pending = .update b (loaded.changes
      { loaded with status := answer, error := text, completed_at := some ended })) ?_ ?_
  · intro loaded
    refine Follows.pass (o := .inc _) (idle_quiet rfl)
      (stable_polling ((lasting_ending answer ended).and (lasting_loaded loaded)))
      stable_true (fun _ => by trivial) (fun _ _ _ _ => trivial) fun _ => ?_
    cases errorIs : errorColumn error with
    | error exc => exact Follows.raise fun _ _ _ _ => trivial
    | ok text => exact Follows.ret fun _ _ _ holds => ⟨⟨text, rfl, rfl⟩, holds⟩
  · rintro loaded pending ⟨text, errorIs, rfl⟩
    refine commit_follows fun now row dir job sound isId active known => ?_
    obtain ⟨ending, before⟩ := known
    exact polled_terminal sound isId active before ending.1 (which text errorIs) ending.2

/-! ## Reading a marker -/

/-- What `read_marker` makes of a file. -/
def Decodes (file : Option Text) (marker : Json.Value) : Prop :=
  match file with
  | none => marker = .null
  | some text => Json.loads text = some marker

/-- A marker that was read is nothing, or a whole record. -/
theorem MarkerLeft.decodes {IsRecord : Json.Record → Prop} {file : Option Text} {marker : Json.Value}
    (left : MarkerLeft IsRecord file) (decodes : Decodes file marker) :
    file = none ∧ marker = .null ∨
      ∃ record, IsRecord record ∧ marker = .obj (Json.decoded record) := by
  cases file with
  | none => exact .inl ⟨rfl, decodes⟩
  | some text =>
      have decoded : Json.loads text = some marker := decodes
      rcases left.cases rfl with torn | ⟨record, isRecord, rfl⟩
      · rw [torn] at decoded
        cases decoded
      · rw [Json.loads_dumps] at decoded
        exact .inr ⟨record, isRecord, (Option.some.inj decoded).symm⟩

theorem read_marker_follows {f : FileName} {φ : Batch → Dir → Option Job → Prop}
    {ρ : Option Text → Batch → Dir → Option Job → Prop} {Left : Option Text → Prop}
    (lasting : Lasting D A b φ) (lastingFile : ∀ file, Lasting D A b (ρ file))
    (left : ∀ now v, Sound D A b now v → Left (v.dir.file f))
    (reads : ∀ now v row, Sound D A b now v → v.row = some row → φ row v.dir v.job →
      ρ (v.dir.file f) row v.dir v.job)
    (expected : ∀ w, Inv D A w → Polling A job_id n φ (view w b) →
      Expected A (.poller pid) (.dir b (.exists f)) w) :
    Follows D A (.poller pid) pid b (read_marker f b) (Polling A job_id n φ)
      (fun marker v => ∃ file, (Left file ∧ Decodes file marker) ∧
        Polling A job_id n (fun row dir job => φ row dir job ∧ ρ file row dir job) v)
      fun _ => True := by
  let facts (file : Option Text) : View → Prop :=
    Polling A job_id n fun row dir job => φ row dir job ∧ ρ file row dir job
  have lastingFacts : ∀ file, StableView D A (.poller pid) b fun v => Left file ∧ facts file v :=
    fun file => (StableView.const _).and (stable_polling (lasting.and (lastingFile file)))
  have seen : ∀ w, Inv D A w → Polling A job_id n φ (view w b) →
      Left ((w.dirs b).file f) ∧ facts ((w.dirs b).file f) (view w b) := by
    rintro w inv ⟨row, found, isId, count, active, holds⟩
    exact ⟨left w.clock _ (inv.sound b), row, found, isId, count, active, holds,
      reads w.clock _ row (inv.sound b) found holds⟩
  refine Follows.read (o := .dir b (.exists f)) (R := fun (present : Bool) v =>
      Polling A job_id n φ v ∧ (present = false → Left none ∧ facts none v))
    (fun present => (stable_polling lasting).and ?_) stable_true expected (fun _ _ _ _ => trivial)
    (idle_exists f) ?_ fun (present : Bool) => ?_
  · exact fun a now v v' other sound changed holds absent =>
      lastingFacts none a now v v' other sound changed (holds absent)
  · intro c w present w' inv holds executed
    refine ⟨holds, fun absent => ?_⟩
    obtain ⟨d, performed, -⟩ := dir_exec D.rd pid executed
    cases performed
    have nothing : (w.dirs b).file f = none := Option.isNone_iff_eq_none.1
      (Option.isSome_eq_false_iff.1 absent)
    rw [← nothing]
    exact seen w inv holds
  · cases present with
    | false =>
        refine Follows.ret fun _ v _ holds => ?_
        obtain ⟨left, polling⟩ := holds.2 rfl
        exact ⟨none, ⟨left, rfl⟩, polling⟩
    | true =>
        refine Follows.pre (K := Polling A job_id n φ) ?_ fun _ _ _ holds => holds.1
        refine Follows.read (o := .dir b (.read_text f))
          (R := fun (text : Text) v => Left (some text) ∧ facts (some text) v)
          (fun text => lastingFacts (some text)) stable_true (fun _ _ _ => trivial)
          (fun _ _ _ _ => trivial) (idle_read_text f) ?_ fun (text : Text) => ?_
        · intro c w text w' inv holds executed
          obtain ⟨d, performed, -⟩ := dir_exec D.rd pid executed
          obtain ⟨content, written, same⟩ := Option.map_eq_some_iff.1 performed
          cases same
          have now := seen w inv holds
          rw [written] at now
          exact now
        · cases decoded : Json.loads text with
          | none => exact Follows.raise fun _ _ _ _ => trivial
          | some marker =>
              exact Follows.ret fun _ _ _ ⟨left, polling⟩ => ⟨some text, ⟨left, decoded⟩, polling⟩

/-! ## One row of the sweep -/

/-- The `_SUCCESS` file is the whole marker of the job, if it has exited as Ray says. -/
def Marked (D : Deployment) (A : Assumed) (b : String) (file : Option Text) (row : Batch) (dir : Dir)
    (job : Option Job) : Prop :=
  A.honest = true → ∃ counts x, Final D b dir job row counts ∧
    file = some (Json.dumps (successRecord b row.model counts x))

theorem lasting_marked (file : Option Text) : Lasting D A b (Marked D A b file) := by
  refine Lasting.imp _ (Lasting.exists_ fun counts => Lasting.exists_ fun x =>
    (Lasting.final counts).and ⟨fun _ _ _ _ _ holds => holds, fun _ _ _ _ _ holds => holds, ?_⟩)
  intro row row' _ _ _ polled holds
  rw [polled.kept.model]
  exact holds

/-- **The marker is there** when Ray says that the job succeeded. -/
theorem marked {now : Nat} {v : View} {row : Batch} (sound : Sound D A b now v)
    (found : v.row = some row) (answered : Answered D A "completed" row v.job) :
    Marked D A b (v.dir.file .success) row v.dir v.job := by
  intro honest
  obtain ⟨j, isJob, exited⟩ := answered.exited honest rfl
  obtain ⟨counts, o, left⟩ := (sound.job row j found isJob).finished exited
  exact ⟨counts, o.finished_at, ⟨⟨j, isJob, exited⟩, o, left⟩, left.success⟩

theorem poll_completed_follows {ended : Nat} :
    Follows D A (.poller pid) pid b (_poll_terminal D.rt b "completed" n ended)
      (Polling A job_id n fun row _ job => Ending D A "completed" ended row job) (fun _ _ => True)
      fun _ => True := by
  refine Follows.bind (read_marker_follows (f := .success) (lasting_ending "completed" ended)
    lasting_marked (fun _ v sound => sound.success)
    (fun now v row sound found ending => marked sound found ending.1) ?_) fun marker => ?_
  · rintro w inv ⟨row, found, -, -, -, ending⟩ honest
    obtain ⟨counts, x, -, written⟩ := marked (inv.sound b) found ending.1 honest
    rw [written]
    rfl
  refine Follows.exists_elim fun file => Follows.const_elim fun ⟨left, decodes⟩ => ?_
  have left : SuccessLeft b file := left
  rcases left.decodes decodes with ⟨rfl, rfl⟩ | ⟨record, ⟨model, counts, x, rfl⟩, rfl⟩
  · -- no marker, so Ray has not kept its promise
    refine Follows.pre (K := Polling A job_id n fun row dir job =>
      Ending D A "completed" ended row job ∧ Told D A b n 0 row dir job)
      (apply_success_follows rfl rfl) ?_
    rintro now v - ⟨row, found, isId, count, active, ending, marked⟩
    refine ⟨row, found, isId, count, active, ending, fun honest => ?_⟩
    obtain ⟨_, _, _, missing⟩ := marked honest
    cases missing
  · refine Follows.pre (K := Polling A job_id n fun row dir job =>
      Ending D A "completed" ended row job ∧ Told D A b counts.completed counts.failed row dir job)
      (apply_success_follows
        (congrArg (·.bind (pyInt D.rt)) (successRecord_completed b model counts x (.int 0)))
        (congrArg (·.bind (pyInt D.rt)) (successRecord_failed b model counts x (.int 0)))) ?_
    rintro now v - ⟨row, found, isId, count, active, ending, marked⟩
    refine ⟨row, found, isId, count, active, ending, fun honest => ?_⟩
    obtain ⟨counts', x', final, rfl⟩ := marked honest
    have same : Json.Value.obj (Json.decoded (successRecord b row.model counts' x')) =
        .obj (Json.decoded (successRecord b model counts x)) := by
      have decoded : Json.loads (Json.dumps (successRecord b row.model counts' x')) = some _ := decodes
      rw [Json.loads_dumps] at decoded
      exact Option.some.inj decoded
    have completed := successRecord_completed b model counts x .null
    have failed := successRecord_failed b model counts x .null
    rw [← same, successRecord_completed] at completed
    rw [← same, successRecord_failed] at failed
    refine ⟨counts', final, ?_, ?_⟩
    · simpa using completed.symm
    · simpa using failed.symm

/-- What the column stores of a message says why. -/
theorem Assumed.Speaks.column {error : Str} {text : Option String} (told : A.Speaks error)
    (stored : errorColumn (.str error) = .ok text) : ∃ error, text = some error ∧ A.Says error := by
  obtain ⟨content, rfl, -, rfl⟩ := errorColumn_str.1 stored
  refine ⟨_, rfl, fun spoken empty => told spoken ?_⟩
  rw [String.ofList_eq_empty_iff.1 empty, Str.ofText_nil]

theorem poll_failed_follows {ended : Nat} :
    Follows D A (.poller pid) pid b (_poll_terminal D.rt b "failed" n ended)
      (Polling A job_id n fun row _ job => Ending D A "failed" ended row job) (fun _ _ => True)
      fun _ => True := by
  refine Follows.bind (read_marker_follows (f := .failed) (ρ := fun _ _ _ _ => True)
    (lasting_ending "failed" ended) (fun _ => Lasting.const True) (fun _ v sound => sound.failure)
    (fun _ _ _ _ _ _ => trivial) fun _ _ _ => trivial) fun marker => ?_
  refine Follows.exists_elim fun file => Follows.const_elim fun ⟨left, decodes⟩ => ?_
  have left : FailureTold A b file := left
  -- whatever was read, the error that is stored is a text that says why
  have stored : ∀ error : Str, A.Speaks error → Follows D A (.poller pid) pid b
      (_apply_terminal b "failed" (.str error) ended)
      (Polling A job_id n fun row _ job => Ending D A "failed" ended row job ∧ True) (fun _ _ => True)
      fun _ => True := fun error told =>
    Follows.pre (K := Polling A job_id n fun row _ job => Ending D A "failed" ended row job)
      (apply_terminal_follows fun text errorIs => .inl ⟨rfl, told.column errorIs⟩) fun _ _ _ polling =>
        polling.mono fun _ _ _ holds => holds.1
  rcases left.decodes decodes with ⟨-, rfl⟩ | ⟨record, ⟨error, traceback, x, told, rfl⟩, rfl⟩
  · exact stored (.ofText "Ray job failed (no marker)".toList) fun _ => by decide
  · exact stored error.joined fun spoken empty => told spoken (Str.joined_eq_nil.1 empty)

theorem poll_terminal_follows {answer : String} (terminal : answer ∈ TERMINAL_STATUSES) {ended : Nat} :
    Follows D A (.poller pid) pid b (_poll_terminal D.rt b answer n ended)
      (Polling A job_id n fun row _ job => Ending D A answer ended row job) (fun _ _ => True)
      fun _ => True := by
  simp only [TERMINAL_STATUSES, List.mem_cons, List.not_mem_nil, or_false] at terminal
  rcases terminal with rfl | rfl | rfl
  · exact poll_completed_follows
  · exact poll_failed_follows
  · refine apply_terminal_follows fun text errorIs => .inr ⟨rfl, ?_⟩
    cases errorIs
    rfl

theorem poll_one_follows :
    Follows D A (.poller pid) pid b (_poll_one D.rt b job_id n)
      (Polling A job_id n fun _ _ _ => True) (fun _ _ => True) fun _ => True := by
  refine Follows.bind get_status_follows fun answer => Follows.const_elim fun literal => ?_
  by_cases terminal : answer ∈ TERMINAL_STATUSES
  · rw [if_neg (not_not_intro terminal)]
    refine Follows.read (o := .utcnow) (R := fun (t : Nat) =>
        Polling A job_id n fun row _ job => Ending D A answer t row job)
      (fun t => stable_polling (lasting_ending answer t)) stable_true (fun _ _ _ => trivial)
      (fun _ _ _ _ => trivial) (idle_quiet rfl) ?_ fun (t : Nat) => poll_terminal_follows terminal
    rintro c w t w' inv ⟨row, found, isId, count, active, answered⟩ executed
    cases executed
    exact ⟨row, found, isId, count, active, answered, ((inv.sound b).row row found).created⟩
  · rw [if_pos terminal]
    exact update_status_follows literal terminal

/-! ## The sweep -/

/-- What is known of the listed rows that are still to be polled. -/
def Listed (A : Assumed) (rows : List Batch) (w : World) : Prop :=
  (rows.map (·.id)).Nodup ∧ ∀ row ∈ rows, ∀ id, row.ray_job_id = some id →
    Polling A id row.input_count (fun _ _ _ => True) (view w row.id)

theorem stable_listed (rows : List Batch) : (contract D A (.poller pid)).Stable (Listed A rows) := by
  refine Contract.stable_and (Contract.stable_const _) ?_
  intro w w' inv inv' moved holds row mem id isId
  exact (stable_polling (Lasting.const True)).stable w w' inv inv' moved (holds row mem id isId)

/-- Polling a row leaves what is known of the others. -/
theorem listed_elsewhere {rows : List Batch} {w w' : World} {actor : Actor}
    (elsewhere : ∀ row ∈ rows, row.id ≠ b) (moved : MoveAt D A b actor w w')
    (listed : Listed A rows w) : Listed A rows w' := by
  refine ⟨listed.1, fun row mem id isId => ?_⟩
  have same : view w' row.id = view w row.id := by
    rcases moved with views | ⟨touches, -⟩
    · exact views row.id
    · exact touches.others row.id (elsewhere row mem)
  rw [same]
  exact listed.2 row mem id isId

theorem pollRow_outline (row : Batch) (rows : List Batch) :
    Contract.Outline (machine D.rd pid) (contract D A (.poller pid)) (pollRow D.rt row)
      (Listed A (row :: rows)) (fun _ => Listed A rows) fun _ _ => True := by
  have tail : ∀ w, Listed A (row :: rows) w → Listed A rows w := fun w listed =>
    ⟨(List.nodup_cons.1 listed.1).2, fun row' mem => listed.2 row' (List.mem_cons_of_mem row mem)⟩
  unfold pollRow
  cases isId : row.ray_job_id with
  | none => exact Contract.Outline.ret fun w _ listed => tail w listed
  | some id =>
      have body : Follows D A (.poller pid) pid row.id
          ((_poll_one D.rt row.id id row.input_count).catching fun exc =>
            if exc.isinstance .exception then
              some (ask (.log .warning ("poller: failed to update " ++ row.id ++ ": " ++ exc.shown)))
            else none)
          (Polling A id row.input_count fun _ _ _ => True) (fun _ _ => True) fun _ => True := by
        refine Follows.catching poll_one_follows fun exc => ?_
        by_cases caught : exc.isinstance .exception = true
        · rw [if_pos caught]
          exact Follows.reads (o := .log .warning _) stable_true stable_true (fun _ _ _ => trivial)
            (fun _ _ _ _ => trivial) (idle_quiet rfl)
        · rw [if_neg caught]
          exact Follows.raise fun _ _ _ _ => trivial
      refine Contract.Outline.pre (Contract.Outline.const_elim (φ := ∀ row' ∈ rows, row'.id ≠ row.id)
        (P := fun w => Polling A id row.input_count (fun _ _ _ => True) (view w row.id) ∧ Listed A rows w)
        fun elsewhere => ?_) ?_
      · refine Contract.Outline.weaken (body.framed (stable_listed rows) fun w w' _ moved =>
          listed_elsewhere elsewhere moved) (fun _ _ holds => holds) (fun _ _ _ holds => holds.2)
          fun _ _ _ _ => trivial
      · intro w _ listed
        have fresh := (List.nodup_cons.1 listed.1).1
        refine ⟨fun row' mem same => fresh ?_, listed.2 row List.mem_cons_self id isId, tail w listed⟩
        exact List.mem_map.2 ⟨row', mem, same⟩

/-- What the query answers is `Listed`. -/
theorem listed_active {w : World} (inv : Inv D A w) {rows : List Batch} (perm : rows.Perm w.table.active) :
    Listed A rows w := by
  have keyed : (w.table.map (·.id)).Nodup := inv.keyed
  constructor
  · rw [(perm.map (·.id)).nodup_iff]
    exact keyed.sublist (List.filter_sublist.map _)
  · intro row mem id isId
    obtain ⟨inTable, active⟩ := List.mem_filter.1 (perm.subset mem)
    exact ⟨row, inv.keyed.get_of_mem inTable, isId, rfl, fun _ => active, trivial⟩

theorem list_outline :
    Contract.Outline (machine D.rd pid) (contract D A (.poller pid))
      (session_scope do
        let rows : List Batch ← ask .list_active_batches
        pure (.clean, rows))
      (fun _ => True) (Listed A) fun (_ : PyException) _ => True := by
  have idles := contract_idles (D := D) (A := A) (.poller pid)
  have always := Contract.stable_const (C := contract D A (.poller pid)) True
  refine session_outline idles (fun _ => ⟨trivial, trivial⟩) always always (fun _ _ _ => trivial)
    (R := fun said w => said.1 = .clean ∧ Listed A said.2 w) ?_ ?_
  · refine Contract.Outline.ask (idle_atomic idles (o := .list_active_batches)
      (R := fun (rows : List Batch) => Listed A rows) (idle_quiet rfl) stable_listed always
      (fun _ _ _ => trivial) ?_ fun _ _ _ => trivial) (fun _ _ _ _ => trivial) fun rows =>
        Contract.Outline.ret fun _ _ listed => ⟨rfl, listed⟩
    intro c w rows w' inv _ executed
    cases c with
    | order rows' =>
        obtain ⟨perm, same⟩ := Option.ite_none_right_eq_some.1 executed
        cases same
        exact listed_active inv (List.isPerm_iff.1 perm)
    | _ => cases executed
  · rintro ⟨pending, rows⟩
    refine Contract.Outline.const_elim fun clean => ?_
    cases clean
    exact Contract.Outline.only (idle_atomic idles (R := fun _ => Listed A rows) idle_clean
      (fun _ => stable_listed rows) always (fun _ _ _ => trivial) (fun _ _ _ _ _ listed _ => listed)
      fun _ _ _ => trivial) (fun _ _ _ _ => trivial) fun _ _ _ listed => listed

/-- **A sweep** keeps the contract of the poller. -/
theorem sweep_outline :
    Contract.Outline (machine D.rd pid) (contract D A (.poller pid)) (poll_active_batches D.rt)
      (fun _ => True) (fun _ _ => True) fun _ _ => True := by
  have idles := contract_idles (D := D) (A := A) (.poller pid)
  have always := Contract.stable_const (C := contract D A (.poller pid)) True
  refine Contract.Outline.bind list_outline fun (active : List Batch) => ?_
  by_cases empty : active.isEmpty = true
  · rw [if_pos empty]
    exact Contract.Outline.ret fun _ _ _ => trivial
  · rw [if_neg empty]
    refine Contract.Outline.ask (idle_atomic idles (o := .log .info _)
      (R := fun _ => Listed A active) (idle_quiet rfl) (fun _ => stable_listed active) always
      (fun _ _ _ => trivial) (fun _ _ _ _ _ listed _ => listed) fun _ _ _ => trivial)
      (fun _ _ _ _ => trivial) fun _ => ?_
    exact Contract.Outline.weaken (Contract.Outline.forEach (I := Listed A)
      (fun row rows => pollRow_outline row rows) active)
      (fun _ _ listed => listed) (fun _ _ _ _ => trivial) fun _ _ _ failed => failed

/-- **key theorem.** A round of the poller keeps its contract, from any world. -/
theorem pollerRound_outline :
    Contract.Outline (machine D.rd pid) (contract D A (.poller pid)) (pollerRound D.rt)
      (fun _ => True) (fun _ _ => True) fun _ _ => True := by
  have idles := contract_idles (D := D) (A := A) (.poller pid)
  have always := Contract.stable_const (C := contract D A (.poller pid)) True
  refine Contract.Outline.catching sweep_outline fun exc => ?_
  by_cases cancelled : exc.isinstance .cancelledError = true
  · rw [if_pos cancelled]
    exact Contract.Outline.raise fun _ _ _ => trivial
  rw [if_neg cancelled]
  by_cases caught : exc.isinstance .exception = true
  · rw [if_pos caught]
    exact Contract.Outline.only (idle_atomic idles (o := .log .error _) (R := fun _ _ => True)
      (idle_quiet rfl) (fun _ => always) always (fun _ _ _ => trivial) (fun _ _ _ _ _ _ _ => trivial)
      fun _ _ _ => trivial) (fun _ _ _ _ => trivial) fun _ _ _ _ => trivial
  · rw [if_neg caught]
    exact Contract.Outline.raise fun _ _ _ => trivial

end KubeRayBatch.Cluster
