/-
# Cluster.StatusReads -- what a client sees of a batch

`GET /v1/batches/{batch_id}` loads the row in one session and shows it.  Seen from outside,
the life of a batch goes one way: what is shown later is the object of a later row.

* `get_batch_status_obeys`: on the terms of a look, the object shown is the object of a row
  that the look was answered, and the world is left alone;
* `row_succeeds`: a row is succeeded by the row of the same batch after any step;
* `shown_precedes`: the object of a row precedes the objects of its successors.
-/
import KubeRayBatch.Cluster.Rows
import KubeRayBatch.Api.Escapes

namespace KubeRayBatch.Cluster

open Theory Api

set_option autoImplicit false

/-! ## The terms of a look -/

/-- What `get_batch` answers for a batch is among `P`. -/
def LoadsFrom (P : String → Option Batch → Prop) : (op : Op) → op.Res → Prop
  | .get_batch b, (row : Option Batch) => P b row
  | _, _ => True

/-- One session that loads the row of `b` and changes nothing; the database may answer by
exceptions of `E`. -/
def lookTerms (b : String) (E : PyException → Prop) (P : Option Batch → Prop) :
    Program.Terms Op Op.Res PyException where
  asks := fun op => op ∈ [Op.open_session, .get_batch b, .commit .clean, .rollback]
  answers := LoadsFrom fun _ => P
  fails := fun _ e => E e

/-- The object of a row of `P`. -/
def Shows (P : Option Batch → Prop) (object : BatchObject) : Prop :=
  ∃ row, P (some row) ∧ _batch_row_to_object row = .ok object

/-- An exception of the database, or there is no row, or it cannot be shown. -/
def LookFails (b : String) (E : PyException → Prop) (P : Option Batch → Prop) (e : PyException) : Prop :=
  E e ∨ (P none ∧ StatusError b e) ∨ ∃ row, P (some row) ∧ _batch_row_to_object row = .error e

section Look

variable {b : String} {E : PyException → Prop} {P : Option Batch → Prop}

theorem load_obeys :
    (session_scope do
      let row : Option Batch ← ask (.get_batch b)
      pure (.clean, row)).Obeys (lookTerms b E P) P E := by
  have asks (op : Op) (asked : (lookTerms b E P).asks op) :
      (ask op).Obeys (lookTerms b E P) ((lookTerms b E P).answers op) E :=
    .ask asked (fun _ answered => answered) fun _ failed => failed
  refine .bind (asks .open_session (by simp [lookTerms])) fun _ _ => .catching (F := E) ?_ ?_
  · refine .bind (R := fun said => said.1 = .clean ∧ P said.2) ?_ ?_
    · exact .bind (asks (.get_batch b) (by simp [lookTerms])) fun row loaded => ⟨rfl, loaded⟩
    · rintro ⟨pending, row⟩ ⟨clean, loaded⟩
      cases clean
      exact .bind (asks (.commit .clean) (by simp [lookTerms])) fun _ _ => loaded
  · intro e failed
    split
    · exact .bind (asks .rollback (by simp [lookTerms])) fun _ _ => failed
    · exact failed

/-- **A look** shows the object of a row that it was answered. -/
theorem get_batch_status_obeys :
    (get_batch_status b).Obeys (lookTerms b E P) (Shows P) (LookFails b E P) := by
  refine .bind (R := P) (load_obeys.mono (fun _ loaded => loaded) fun _ failed => .inl failed) ?_
  intro answer loaded
  cases answer with
  | none => exact .inr (.inl ⟨loaded, rfl⟩)
  | some row =>
      show (lift (_batch_row_to_object row)).Obeys _ _ _
      cases shown : _batch_row_to_object row with
      | ok object => exact ⟨row, loaded, shown⟩
      | error e => exact .inr (.inr ⟨row, loaded, shown⟩)

/-- A look that has been answered from `S` so far, and will be shown what it was answered. -/
def Looking (b : String) (E : PyException → Prop) (S : Option Batch → Prop) (p : Proc BatchObject) :
    Prop :=
  ∀ P : Option Batch → Prop, (∀ row, S row → P row) →
    p.Obeys (lookTerms b E P) (Shows P) (LookFails b E P)

variable {S S' : Option Batch → Prop} {p p' : Proc BatchObject}

theorem Looking.start : Looking b E S (get_batch_status b) := fun _ _ => get_batch_status_obeys

theorem Looking.mono (looking : Looking b E S p) (wider : ∀ row, S row → S' row) : Looking b E S' p :=
  fun P covers => looking P fun row seen => covers row (wider row seen)

theorem Looking.returned {object : BatchObject} (looking : Looking b E S (.ret object)) : Shows S object :=
  looking S fun _ seen => seen

theorem Looking.raised {e : PyException} (looking : Looking b E S (.raise e)) : LookFails b E S e :=
  looking S fun _ seen => seen

variable {rd : RayData} {pid : Nat} {event : Event} {w w' : World}

/-- An operation of a look leaves the world alone. -/
theorem look_idle {op : Op} {c : Choice} {a : op.Res} (asked : (lookTerms b E P).asks op)
    (executed : exec rd pid op c w = some (a, w')) : w' = w := by
  simp only [lookTerms, List.mem_cons, List.not_mem_nil, or_false] at asked
  rcases asked with rfl | rfl | rfl | rfl
  · cases executed
    rfl
  · cases executed
    rfl
  · obtain ⟨table, committed, rfl⟩ := commit_exec rd pid _ executed
    cases committed
    rfl
  · cases executed
    rfl

/-- **A step of a look** leaves the world alone; if its row is loaded, the row it has now. -/
theorem Looking.step (looking : Looking b E S p) (current : S (w.table.get b))
    (expected : ∀ e, event.thrown = some e → E e)
    (stepped : Program.step (machine rd pid) p event w = some (p', w')) :
    Looking b E S p' ∧ w' = w := by
  constructor
  · intro P covers
    refine (looking P covers).step (M := machine rd pid) ?_ (fun _ e _ thrown => expected e thrown) stepped
    intro op next a _ asked executed
    simp only [lookTerms, List.mem_cons, List.not_mem_nil, or_false] at asked
    rcases asked with rfl | rfl | rfl | rfl
    · trivial
    · cases executed
      exact covers _ current
    · trivial
    · trivial
  · exact (looking (fun _ => True) fun _ _ => trivial).still (M := machine rd pid)
      (fun _ _ _ => look_idle) stepped

end Look

/-! ## Rows, and what is shown of them -/

/-- The second row may be found where the first one was. -/
structure Succeeds (row row' : Batch) : Prop where
  kept : Kept row row'
  behind : Behind row.status row'.status
  frozen : row.status ∈ TERMINAL_STATUSES → Frozen row row'

theorem Succeeds.refl (row : Batch) : Succeeds row row :=
  ⟨Kept.refl row, Behind.refl row.status, fun _ => Frozen.refl row⟩

theorem Succeeds.trans {a b c : Batch} (first : Succeeds a b) (second : Succeeds b c) : Succeeds a c where
  kept := first.kept.trans second.kept
  behind := first.behind.trans second.behind
  frozen := fun terminal => (first.frozen terminal).trans
    (second.frozen ((first.frozen terminal).status ▸ terminal))

/-- The second object may be shown where the first one was. -/
structure Precedes (object object' : BatchObject) : Prop where
  id : object'.id = object.id
  model : object'.model = object.model
  created_at : object'.created_at = object.created_at
  total : object'.request_counts.total = object.request_counts.total
  status : Behind object.status.literal object'.status.literal
  final : object.status.literal ∈ TERMINAL_STATUSES → object' = object

/-- What an object shows of its row. -/
theorem shown_columns {row : Batch} {object : BatchObject}
    (shown : _batch_row_to_object row = .ok object) :
    row.status = object.status.literal ∧ object.id = row.id ∧ object.model = row.model ∧
      object.created_at = _to_unix row.created_at ∧
      object.completed_at = row.completed_at.map _to_unix ∧
      object.request_counts = ⟨row.input_count, row.completed_count.toNat, row.failed_count.toNat⟩ ∧
      object.error = row.error := by
  unfold _batch_row_to_object at shown
  split at shown
  · cases shown
  · rename_i status valid
    split_ifs at shown
    cases shown
    refine ⟨?_, rfl, rfl, rfl, rfl, rfl, rfl⟩
    have found := List.find?_some valid
    exact (beq_iff_eq.1 found).symm

/-- **Objects** of successors. -/
theorem shown_precedes {row row' : Batch} {object object' : BatchObject} (succeeds : Succeeds row row')
    (shown : _batch_row_to_object row = .ok object)
    (shown' : _batch_row_to_object row' = .ok object') : Precedes object object' := by
  obtain ⟨status, id, model, created, ended, counts, error⟩ := shown_columns shown
  obtain ⟨status', id', model', created', ended', counts', error'⟩ := shown_columns shown'
  have kept := succeeds.kept
  refine ⟨?_, ?_, ?_, ?_, ?_, ?_⟩
  · rw [id, id', kept.id]
  · rw [model, model', kept.model]
  · rw [created, created', kept.created_at]
  · rw [counts, counts', kept.input_count]
  · rw [← status, ← status']
    exact succeeds.behind
  · intro terminal
    have frozen := succeeds.frozen (status ▸ terminal)
    have same : object'.status = object.status := by
      have literal := congrArg BatchStatus.ofLiteral (status'.symm.trans (frozen.status.trans status))
      simpa using literal
    -- the object shows columns that are kept, and columns that are frozen
    calc object' = ⟨object'.id, object'.model, object'.status, object'.created_at, object'.completed_at,
            object'.request_counts, object'.error⟩ := rfl
      _ = ⟨row.id, row.model, object.status, _to_unix row.created_at, row.completed_at.map _to_unix,
            ⟨row.input_count, row.completed_count.toNat, row.failed_count.toNat⟩, row.error⟩ := by
          rw [id', model', same, created', ended', counts', error', kept.id, kept.model, kept.created_at,
            kept.input_count, frozen.completed_at, frozen.completed_count, frozen.failed_count,
            frozen.error]
      _ = object := by rw [← id, ← model, ← created, ← ended, ← counts, ← error]

section Rows

variable {D : Deployment} {A : Assumed} {s s' : State}

/-- **Every step** puts a successor in the place of a row. -/
theorem row_succeeds (reachable : Reachable D A s) (alone : A.alone = true) (forward : A.forward = true)
    {e : Step} (may : permitted D A e s = true) (stepped : step D e s = some s') {b : String}
    {row : Batch} (found : s.world.table.get b = some row) :
    ∃ row', s'.world.table.get b = some row' ∧ Succeeds row row' := by
  have safe := reachable_inv reachable
  obtain rfl := Table.get_id found
  have mem := Table.get_mem found
  obtain ⟨row', mem', id, kept, behind⟩ := row_advances safe alone forward may stepped mem
  have found' : s'.world.table.get row.id = some row' :=
    id ▸ (safe.step may stepped).1.world.view_of_mem mem'
  refine ⟨row', found', kept, behind, fun terminal => ?_⟩
  obtain ⟨row'', mem'', id'', frozen⟩ := row_over safe alone may stepped mem terminal
  have found'' : s'.world.table.get row.id = some row'' :=
    id'' ▸ (safe.step may stepped).1.world.view_of_mem mem''
  cases found'.symm.trans found''
  exact frozen

/-- A row of the table can be shown. -/
theorem row_shown (reachable : Reachable D A s) (alone : A.alone = true) (forward : A.forward = true)
    {b : String} {row : Batch} (found : s.world.table.get b = some row) :
    ∃ object, _batch_row_to_object row = .ok object := by
  have law := row_law (reachable_inv reachable) alone forward (Table.get_mem found)
  obtain ⟨status, literal⟩ := law.literal
  obtain ⟨object, shown, -⟩ :=
    row_to_object_ok literal law.shape.completed_count law.shape.failed_count
  exact ⟨object, shown⟩

end Rows

end KubeRayBatch.Cluster
