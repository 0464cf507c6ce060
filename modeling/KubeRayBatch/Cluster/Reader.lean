/-
# Cluster.Reader -- fetching results among everybody else

Once the job of a row has exited with status 0, its directory does not change any more.
So a reader that found the row completed finds the results file when it looks for it,
and again when it opens it, and streams the lines of the whole output.
-/
import KubeRayBatch.Cluster.Sharing

namespace KubeRayBatch.Cluster

open Theory Api Worker

set_option autoImplicit false

variable {D : Deployment} {A : Assumed} {pid : Nat} {b : String}

/-- The job of the row has exited with status 0 and left its output; `φ` may speak of the
directory. -/
def Served (D : Deployment) (b : String) (φ : Dir → Prop) (v : View) : Prop :=
  ∃ row counts, v.row = some row ∧ Final D b v.dir v.job row counts ∧ φ v.dir

theorem stable_served {me : Actor} (φ : Dir → Prop) : StableView D A me b (Served D b φ) := by
  rintro a now v v' other sound changed ⟨row, counts, found, final, holds⟩
  obtain ⟨row', found', kept⟩ := changed.kept found
  have stays : Final D b v.dir v.job row' counts := final.row kept.model kept.max_tokens
  have notRunning : ∀ job, v.job = some job → job.exit_code ≠ none := by
    intro job submitted running
    rw [submitted] at final
    exact Final.not_running running final
  refine ⟨row', counts, found', ?_⟩
  cases changed with
  | issue | insert | attach | mark | poll => exact ⟨stays, holds⟩
  | input a dir owned unborn => rw [unborn] at found; cases found
  | submit a row id env owned found unattached unsubmitted =>
      obtain ⟨j, submitted, -⟩ := final.exited
      rw [unsubmitted] at submitted
      cases submitted
  | start a job submitted idle =>
      exact absurd ((sound.job row job found submitted).idle idle) (notRunning job submitted)
  | work a job dir submitted runs running | exit a job code submitted runs running =>
      exact absurd running (notRunning job submitted)
  | report job status submitted =>
      obtain ⟨j, submitted', exited⟩ := stays.exited
      cases submitted.symm.trans submitted'
      exact ⟨⟨⟨_, rfl, exited⟩, stays.output⟩, holds⟩

theorem stable_honest {φ : Dir → Prop} :
    StableView D A (.reader pid) b fun v => A.honest = true → Served D b φ v :=
  fun a now v v' other sound changed holds honest =>
    stable_served φ a now v v' other sound changed (holds honest)

/-- A completed row is served. -/
theorem served_of_completed {now : Nat} {v : View} {row : Batch} (sound : Sound D A b now v)
    (found : v.row = some row) (completed : row.status = "completed") (honest : A.honest = true) :
    Served D b (fun _ => True) v := by
  obtain ⟨counts, final, -⟩ := ((sound.row row found).shown honest).completed completed
  exact ⟨row, counts, found, final, trivial⟩

/-- The session that loads the row. -/
theorem load_follows :
    Follows D A (.reader pid) pid b
      (session_scope do
        let row : Option Batch ← ask (.get_batch b)
        pure (.clean, row))
      (fun _ => True)
      (fun answer v => ∀ row, answer = some row → row.status = "completed" →
        A.honest = true → Served D b (fun _ => True) v) fun _ => True := by
  have stable : ∀ answer : Option Batch, StableView D A (.reader pid) b fun v =>
      ∀ row, answer = some row → row.status = "completed" → A.honest = true →
        Served D b (fun _ => True) v :=
    fun answer a now v v' other sound changed holds row same completed honest =>
      stable_served _ a now v v' other sound changed (holds row same completed honest)
  refine Follows.session (R := fun said v => said.1 = .clean ∧ ∀ row, said.2 = some row →
    row.status = "completed" → A.honest = true → Served D b (fun _ => True) v) stable_true stable_true
    (fun _ _ _ _ => trivial) ?_ ?_
  · refine Follows.read (o := .get_batch b) stable stable_true (fun _ _ _ => trivial)
      (fun _ _ _ _ => trivial) (idle_quiet rfl) ?_ fun answer => Follows.ret fun _ _ _ holds => ⟨rfl, holds⟩
    intro c w answer w' inv _ executed row same completed honest
    cases executed
    exact served_of_completed (inv.sound b) same completed honest
  · rintro ⟨pending, answer⟩
    refine Follows.const_elim fun clean => ?_
    cases clean
    exact Follows.reads (stable answer) stable_true (fun _ _ _ => trivial) (fun _ _ _ _ => trivial)
      idle_clean

/-- What the reader takes for granted about the results file. -/
theorem results_present {w : World} {φ : Dir → Prop}
    (served : A.honest = true → Served D b φ (view w b)) :
    Expected A (.reader pid) (.dir b (.exists .results)) w := by
  intro honest
  obtain ⟨row, counts, -, final, -⟩ := served honest
  obtain ⟨o, left⟩ := final.output
  rw [left.results]
  rfl

/-- **key theorem.** What a reader streams are the lines of the whole output. -/
theorem streamed_follows :
    Follows D A (.reader pid) pid b (streamed_results D.settings b) (fun _ => True)
      (fun lines v => A.honest = true → Served D b (fun d => ∃ content,
        d.file .results = some content ∧ lines = TextLines.lines content) v) fun _ => True := by
  refine Follows.bind (R := fun response v => response = ⟨D.settings.RESULTS_DIR, b, "application/x-ndjson"⟩ ∧
    (A.honest = true → Served D b (fun _ => True) v)) ?_ fun response => ?_
  · refine Follows.bind load_follows fun answer => ?_
    cases answer with
    | none => exact Follows.raise fun _ _ _ _ => trivial
    | some row =>
        by_cases completed : row.status = "completed"
        · simp only [completed, ne_eq, not_true_eq_false, if_false]
          refine Follows.read (o := .dir b (.exists .results))
            (R := fun _ v => A.honest = true → Served D b (fun _ => True) v)
            (fun _ => stable_honest) stable_true
            (fun w _ holds => results_present (holds row rfl completed)) (fun _ _ _ _ => trivial)
            (idle_exists .results) (fun _ _ _ _ _ holds _ => holds row rfl completed)
            fun (present : Bool) => ?_
          cases present with
          | true => exact Follows.ret fun _ _ _ holds => ⟨rfl, holds⟩
          | false =>
              exact Follows.pass (o := .log .error _) (idle_quiet rfl) stable_honest stable_true
                (fun _ => by trivial) (fun _ _ _ _ => trivial) fun _ =>
                  Follows.raise fun _ _ _ _ => trivial
        · simp only [completed, ne_eq, not_false_eq_true, if_true]
          exact Follows.raise fun _ _ _ _ => trivial
  · refine Follows.const_elim fun isResponse => ?_
    subst isResponse
    refine Follows.read (o := .dir b (.exists .results))
      (R := fun _ v => A.honest = true → Served D b (fun _ => True) v) (fun _ => stable_honest)
      stable_true (fun w _ holds => results_present holds) (fun _ _ _ _ => trivial)
      (idle_exists .results) (fun _ _ _ _ _ holds _ => holds) fun (present : Bool) => ?_
    cases present with
    | false => exact Follows.raise fun _ _ _ _ => trivial
    | true =>
        refine Follows.read (o := .dir b (.read_text .results)) (R := fun (content : Text) v =>
            A.honest = true → Served D b (fun d => d.file .results = some content) v)
          (fun _ => stable_honest) stable_true (fun _ _ _ => trivial) (fun _ _ _ _ => trivial)
          (idle_read_text .results) ?_ fun (content : Text) => Follows.ret fun _ v _ holds honest => ?_
        · intro c w content w' inv holds executed honest
          obtain ⟨row, counts, found, final, -⟩ := holds honest
          obtain ⟨d, performed, -⟩ := dir_exec D.rd pid executed
          obtain ⟨content', written, same⟩ := Option.map_eq_some_iff.1 performed
          cases same
          exact ⟨row, counts, found, final, written⟩
        · obtain ⟨row, counts, found, final, written⟩ := holds honest
          exact ⟨row, counts, found, final, content, written, rfl⟩

end KubeRayBatch.Cluster
