/-
# Cluster.Draft -- where a handler stands, down to the characters of its input file

A handler draws one id, writes the prompts of its request under it, inserts the row when the
file is whole, and works on that row from there on.  `Draft` is the note it keeps, and `posts`
the protocol of the notes.

* `create_batch_drafts`: a handler keeps to its draft, and returns the object of its own batch.
-/
import KubeRayBatch.Api.Counters
import KubeRayBatch.Worker.RoundTrip

namespace KubeRayBatch.Cluster

open Theory Api Worker

set_option autoImplicit false

/-! ## The draft of a handler -/

inductive Draft where
  | blank
  /-- The id is drawn; so much of the input file is written. -/
  | writing (b : String) (text : Option Text)
  /-- The row is inserted, and was loaded so. -/
  | posted (b : String) (loaded : Option Batch)

section Posts

variable (settings : Settings) (request : CreateBatchRequest)

/-- The input file of a request. -/
def wholeInput : Text := inputText (request.input.map (·.model_dump))

/-- A handler draws one id, writes its input file from the first character on, and inserts the
row when it is whole; before that it updates nothing. -/
def posts : Protocol Op Op.Res Draft where
  asks
    | .ulid, n => n = .blank
    | .dir b .mkdir, n => ∃ text, n = .writing b text
    | .dir b (.create .input), n => ∃ text, n = .writing b text
    | .dir b (.append .input _), n => ∃ text, n = .writing b (some text)
    | .dir _ _, _ => False
    | .commit (.insert new), n => ∃ b path, n = .writing b (some (wholeInput request)) ∧
        new = newRow settings request b path
    | .commit (.update _ _), n => ∃ b loaded, n = .posted b loaded
    | .get_batch b, n => ∃ loaded, n = .posted b loaded
    | _, _ => True
  done
    | .ulid, _, u, n' => n' = .writing (newBatchId u) none
    | .dir b (.create .input), _, _, n' => n' = .writing b (some [])
    | .dir b (.append .input chunk), n, _, n' => ∃ text, n = .writing b (some text) ∧
        n' = .writing b (some (text ++ chunk))
    | .commit (.insert new), _, _, n' => n' = .posted new.id none
    | .get_batch b, _, row, n' => n' = .posted b row ∧ ∀ r, row = some r → r.id = b
    | _, n, _, n' => n' = n
  refused _ _ := True
  lost
    | .ulid, _, _ => False
    | .dir b (.create .input), _, n' => n' = .writing b (some [])
    | .dir b (.append .input chunk), n, n' => ∃ text, n = .writing b (some text) ∧
        n' = .writing b (some (text ++ chunk))
    | .commit (.insert new), _, n' => n' = .posted new.id none
    | .get_batch b, _, n' => ∃ row, n' = .posted b row
    | _, n, n' => n' = n

variable {settings request} {α : Type} {n : Draft}

/-- A handler may raise anywhere. -/
abbrev Drafts (settings : Settings) (request : CreateBatchRequest) (p : Proc α) (n : Draft)
    (Q : α → Draft → Prop) : Prop :=
  (posts settings request).Follows p n Q fun _ _ => True

/-- Operations on neither the volume nor the table. -/
def asideOp : Op → Bool
  | .ulid | .dir _ _ | .commit (.insert _) | .commit (.update _ _) | .get_batch _ => false
  | _ => true

theorem aside_neutral {op : Op} (aside : asideOp op = true) : (posts settings request).Neutral op n := by
  cases op with
  | commit pending =>
      cases pending with
      | clean => exact ⟨trivial, fun _ _ same => same, fun _ same => same⟩
      | insert | update => cases aside
  | ulid | dir | get_batch => cases aside
  | _ => exact ⟨trivial, fun _ _ same => same, fun _ same => same⟩

theorem aside_drafts {op : Op} (aside : asideOp op = true) {f : op.Res → Proc α}
    {Q : α → Draft → Prop} (rest : ∀ a, Drafts settings request (f a) n Q) :
    Drafts settings request ((ask op).bind f) n Q :=
  ask_follows (Y := fun _ => True) (aside_neutral aside) trivial rest

theorem session_drafts {body : Proc (Pending × α)} {Q : α → Draft → Prop}
    (follows : Drafts settings request body n (Commits (posts settings request) Q fun _ => True)) :
    Drafts settings request (session_scope body) n Q :=
  session_follows (aside_neutral rfl) trivial (fun _ _ => aside_neutral rfl) follows

/-- A session that looks for the row finds the row of this id, or none. -/
theorem get_drafts (b : String) {loaded : Option Batch} {f : Option Batch → Proc α}
    {Q : α → Draft → Prop}
    (rest : ∀ row, (∀ r, row = some r → r.id = b) → Drafts settings request (f row) (.posted b row) Q) :
    Drafts settings request ((ask (.get_batch b)).bind f) (.posted b loaded) Q := by
  refine .bind (R := fun row n' => n' = .posted b row ∧ ∀ r, row = some r → r.id = b) ?_ ?_
  · exact .ask ⟨loaded, rfl⟩ (fun _ _ answered => answered) (fun _ _ => trivial) fun _ _ _ => trivial
  · rintro row n' ⟨same, mine⟩
    rw [same]
    exact rest row mine

theorem clean_drafts (a : α) {Q : α → Draft → Prop} (post : Q a n) :
    Commits (posts settings request) Q (fun _ => True) (.clean, a) n :=
  .ask_neutral (aside_neutral rfl) (fun _ => post) fun _ => trivial

theorem update_drafts {b key : String} {row : Option Batch} {changes : Changes} :
    Commits (posts settings request) (fun (_ : Unit) n' => ∃ loaded, n' = .posted b loaded) (fun _ => True)
      (.update key changes, ()) (.posted b row) :=
  .ask ⟨b, row, rfl⟩ (fun _ _ same => ⟨row, same⟩) (fun _ _ => trivial) fun _ _ _ => trivial

/-- A session that changes the row. -/
theorem change_drafts {b : String} {loaded : Option Batch} {f : Option Batch → Proc (Pending × Unit)}
    (changes : ∀ row, Drafts settings request (f row) (.posted b row)
      (Commits (posts settings request) (fun _ n' => ∃ loaded, n' = .posted b loaded) fun _ => True)) :
    Drafts settings request (session_scope ((ask (.get_batch b)).bind f)) (.posted b loaded)
      fun _ n' => ∃ loaded, n' = .posted b loaded :=
  session_drafts (get_drafts b fun row _ => changes row)

theorem mark_failed_drafts (b error : String) (loaded : Option Batch) :
    Drafts settings request (_mark_failed b error) (.posted b loaded)
      fun _ n' => ∃ loaded, n' = .posted b loaded := by
  refine change_drafts fun row => ?_
  cases row with
  | none => exact aside_drafts rfl fun _ => clean_drafts () ⟨none, rfl⟩
  | some row => exact aside_drafts rfl fun _ => update_drafts

theorem attach_drafts (b id : String) (loaded : Option Batch) :
    Drafts settings request (_attach_ray_job_id b id) (.posted b loaded)
      fun _ n' => ∃ loaded, n' = .posted b loaded := by
  refine change_drafts fun row => ?_
  cases row with
  | none => exact aside_drafts rfl fun _ => clean_drafts () ⟨none, rfl⟩
  | some row => exact update_drafts

/-- The object of a row has its id. -/
theorem row_to_object_id {row : Batch} {object : BatchObject}
    (shown : _batch_row_to_object row = .ok object) : object.id = row.id := by
  unfold _batch_row_to_object at shown
  split at shown
  · cases shown
  · split at shown
    · cases shown
    · split at shown
      · cases shown
      · cases shown
        rfl

/-- The object is the one of the row that was loaded last. -/
def Returned (object : BatchObject) (n : Draft) : Prop :=
  ∃ row, n = .posted object.id (some row) ∧ _batch_row_to_object row = .ok object

theorem attach_submitted_drafts (b id : String) (loaded : Option Batch) :
    Drafts settings request (attachSubmitted request b id) (.posted b loaded) Returned := by
  refine .bind (attach_drafts b id loaded) ?_
  rintro - - ⟨attached, rfl⟩
  refine aside_drafts rfl fun _ => ?_
  refine .bind (R := fun refreshed n' => n' = .posted b refreshed ∧
    ∀ r, refreshed = some r → r.id = b) ?_ ?_
  · exact session_drafts (get_drafts b fun row mine => clean_drafts row ⟨rfl, mine⟩)
  · rintro refreshed - ⟨rfl, mine⟩
    cases refreshed with
    | none => exact aside_drafts rfl fun _ => trivial
    | some row =>
        cases shown : _batch_row_to_object row with
        | error exc =>
            simp only [shown]
            trivial
        | ok object =>
            simp only [shown]
            have id : object.id = b := (row_to_object_id shown).trans (mine row rfl)
            exact ⟨row, by rw [id], shown⟩

theorem submit_inserted_drafts (b : String) :
    Drafts settings request (submitInserted settings request b) (.posted b none) Returned := by
  refine .bind (R := fun _ n' => n' = .posted b none) ?_ ?_
  · refine .catching (Y := fun _ n' => n' = .posted b none) ?_ ?_
    · refine .neutral ?_ (fun _ => rfl) fun _ => rfl
      refine .bind (.ask (aside_neutral rfl)) fun (ready : Bool) => ?_
      cases ready with
      | false => trivial
      | true =>
          exact .bind (.ask (aside_neutral rfl)) fun _ =>
            .bind (.ask (aside_neutral rfl)) fun _ => trivial
    · rintro exc - rfl
      split
      · exact aside_drafts rfl fun _ => aside_drafts rfl fun _ =>
          .bind (mark_failed_drafts b _ none) fun _ _ _ => trivial
      · trivial
  · rintro id - rfl
    exact attach_submitted_drafts b id none

/-- One character of the input file. -/
theorem append_drafts {b : String} {text : Text} (c : Char) :
    Drafts settings request (ask (.dir b (.append .input [c]))) (.writing b (some text))
      fun _ n' => n' = .writing b (some (text ++ [c])) := by
  refine .ask ⟨text, rfl⟩ ?_ (fun _ _ => trivial) fun _ _ _ => trivial
  rintro - - ⟨text', same, rfl⟩
  cases same
  rfl

theorem weaken_drafts {p : Proc α} {Q Q' : α → Draft → Prop} (follows : Drafts settings request p n Q)
    (post : ∀ a n', Q a n' → Q' a n') : Drafts settings request p n Q' :=
  Protocol.Follows.weaken follows post fun _ _ holds => holds

/-- A loop; the invariant speaks of what is still to be written. -/
theorem loop_drafts {β : Type} {body : β → Proc Unit} {I : List β → Draft → Prop}
    (each : ∀ x rest n, I (x :: rest) n → Drafts settings request (body x) n fun _ => I rest)
    {xs : List β} (start : I xs n) : Drafts settings request (Program.forEach xs body) n fun _ => I [] :=
  Protocol.Follows.forEach each xs n start

theorem write_text_drafts {b : String} (chunk : Text) (text : Text) :
    Drafts settings request (writeText b .input chunk) (.writing b (some text))
      fun _ n' => n' = .writing b (some (text ++ chunk)) := by
  refine weaken_drafts (loop_drafts (I := fun rest n' =>
    ∃ written, n' = .writing b (some written) ∧ written ++ rest = text ++ chunk) ?_ ⟨text, rfl, rfl⟩) ?_
  · rintro c rest - ⟨written, rfl, whole⟩
    refine weaken_drafts (append_drafts c) ?_
    rintro - - rfl
    exact ⟨written ++ [c], rfl, by simpa using whole⟩
  · rintro - - ⟨written, rfl, whole⟩
    rw [← whole, List.append_nil]

/-- The whole input file, line by line. -/
theorem input_lines_drafts (b : String) :
    Drafts settings request (inputLines b (request.input.map (·.model_dump))) (.writing b (some []))
      fun _ n' => n' = .writing b (some (wholeInput request)) := by
  refine weaken_drafts (loop_drafts (I := fun rest n' => ∃ written,
    n' = .writing b (some written) ∧ written ++ numberedText rest = wholeInput request) ?_
    ⟨[], rfl, rfl⟩) ?_
  · rintro ⟨item, idx⟩ rest - ⟨written, rfl, whole⟩
    refine weaken_drafts (write_text_drafts (inputLine idx item) written) ?_
    rintro - - rfl
    refine ⟨written ++ inputLine idx item, rfl, ?_⟩
    rw [List.append_assoc]
    exact whole
  · rintro - - ⟨written, rfl, whole⟩
    rw [← whole]
    simp [numberedText]

/-- **A handler** keeps to its draft, and returns the object of its own batch. -/
theorem create_batch_drafts :
    Drafts settings request (create_batch settings request) .blank Returned := by
  rw [create_batch_eq]
  refine .bind (R := fun u n' => n' = .writing (newBatchId u) none) ?_ ?_
  · exact .ask rfl (fun _ _ same => same) (fun _ _ => trivial) fun _ lost => lost.elim
  rintro u - rfl
  refine aside_drafts rfl fun _ => ?_
  refine .bind (R := fun _ n' => n' = .writing (newBatchId u) none) ?_ ?_
  · exact .ask ⟨none, rfl⟩ (fun _ _ same => same) (fun _ _ => trivial) fun _ _ _ => trivial
  rintro - - rfl
  refine .bind (R := fun _ n' => n' = .writing (newBatchId u) (some [])) ?_ ?_
  · exact .ask ⟨none, rfl⟩ (fun _ _ same => same) (fun _ _ => trivial) fun _ _ _ => trivial
  rintro - - rfl
  refine .bind (input_lines_drafts _) ?_
  rintro - - rfl
  refine .bind (R := fun _ n' => n' = .posted (newBatchId u) none) ?_ ?_
  · refine session_drafts ?_
    exact .ask ⟨_, _, rfl, rfl⟩ (fun _ _ same => same) (fun _ _ => trivial) fun _ _ _ => trivial
  · rintro - - rfl
    exact submit_inserted_drafts _

end Posts

end KubeRayBatch.Cluster
