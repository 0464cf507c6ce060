/-
# Cluster.Origin -- whose request a row is

Rows, directories and jobs are found by the batch id alone; that a client gets the answers to
its own prompts rests on an id being drawn once, by one request, which writes its own prompts
under it before anybody else knows of it.

* `Draft.Means.other`, `draft_step`: what a draft says about the world survives the steps of
  the others, and the handler's own steps lead it on;
* `row_of_request`: in every reachable state each row is the row of exactly one request, with
  the model, the limit and the prompts of that request; no request has two rows; and a
  request that has returned, returned the object of its own row.
-/
import KubeRayBatch.Cluster.Draft
import KubeRayBatch.Cluster.Rows
import KubeRayBatch.Cluster.Turns

namespace KubeRayBatch.Cluster

open Theory Api Worker

set_option autoImplicit false

/-! ## What a draft means -/

/-- The row of this batch is the row of this request. -/
structure Makes (w : World) (pid : Nat) (request : CreateBatchRequest) (b : String) (row : Batch) :
    Prop where
  owner : (view w b).owner = some pid
  stored : (view w b).row = some row
  posted : ∃ u, Posted u request b (view w b).dir row

/-- The process owns no batch but this one. -/
def OwnsOnly (w : World) (pid : Nat) (b : String) : Prop :=
  ∀ b', (view w b').owner = some pid → b' = b

/-- The id is drawn, and nobody else knows of it. -/
structure Writing (w : World) (pid : Nat) (b : String) (text : Option Text) : Prop where
  drawn : ∃ u, b = newBatchId u
  owner : (view w b).owner = some pid
  unborn : (view w b).row = none
  input : ∀ written, text = some written → (view w b).dir.file .input = some written

/-- What the draft of a handler says about the world. -/
def Draft.Means (pid : Nat) (request : CreateBatchRequest) (w : World) : Draft → Prop
  | .blank => ∀ b, (view w b).owner ≠ some pid
  | .writing b text => OwnsOnly w pid b ∧ Writing w pid b text
  | .posted b loaded => OwnsOnly w pid b ∧ ∃ row, Makes w pid request b row ∧
      ∀ r, loaded = some r → Kept r row

section Changes

variable {D : Deployment} {A : Assumed} {b : String} {now : Nat} {actor : Actor} {v v' : View}
variable {pid : Nat}

/-- An id keeps its owner. -/
theorem Change.owner (changed : Change D A b now actor v v') (owned : v.owner = some pid) :
    v'.owner = some pid := by
  cases changed with
  | issue pid unowned =>
      rw [unowned] at owned
      cases owned
  | _ => exact owned

/-- Only the process that draws an id becomes its owner. -/
theorem Change.owned_before (changed : Change D A b now actor v v')
    (stranger : actor ≠ .handler pid) (owned : v'.owner = some pid) : v.owner = some pid := by
  cases changed with
  | issue pid' unowned =>
      cases owned
      exact absurd rfl stranger
  | _ => exact owned

/-- The row of a batch that somebody else owns is not inserted, nor its input written. -/
theorem Change.unborn (changed : Change D A b now actor v v') (sound : Sound D A b now v)
    (stranger : actor ≠ .handler pid) (owned : v.owner = some pid) (unborn : v.row = none) :
    v'.row = none ∧ v'.dir = v.dir := by
  have mine : ∀ {pid'}, actor = .handler pid' → v.owner ≠ some pid' := by
    rintro pid' rfl owned'
    rw [owned] at owned'
    cases owned'
    exact stranger rfl
  cases changed with
  | issue | submit | start | exit | report => exact ⟨unborn, rfl⟩
  | input pid' dir owned' => exact absurd owned' (mine rfl)
  | insert pid' u request path owned' => exact absurd owned' (mine rfl)
  | attach pid' row job updated owned' => exact absurd owned' (mine rfl)
  | mark pid' row error ended updated owned' => exact absurd owned' (mine rfl)
  | work pid' job dir submitted =>
      rw [sound.jobless unborn] at submitted
      cases submitted
  | poll pid' row row' found =>
      rw [unborn] at found
      cases found

/-- The input file of a batch stays, once its row is there. -/
theorem Change.input_kept (changed : Change D A b now actor v v') {row : Batch}
    (found : v.row = some row) : v'.dir.file .input = v.dir.file .input := by
  cases changed with
  | input pid dir owned unborn =>
      rw [unborn] at found
      cases found
  | work pid job dir submitted runs running stepped => exact stepped.input
  | _ => rfl

/-- A row is inserted by the owner of its id. -/
theorem Change.newborn (changed : Change D A b now actor v v') (unborn : v.row = none) {row : Batch}
    (found : v'.row = some row) : ∃ pid, actor = .handler pid ∧ v'.owner = some pid := by
  cases changed with
  | insert pid u request path owned => exact ⟨pid, rfl, owned⟩
  | attach pid row job updated owned found' | mark pid row error ended updated owned found'
  | poll pid row row' found' =>
      rw [unborn] at found'
      cases found'
  | _ =>
      rw [unborn] at found
      cases found

end Changes

section Moves

variable {D : Deployment} {A : Assumed} {w w' : World} {actor : Actor} {pid : Nat}
variable {request : CreateBatchRequest} {b : String} {n : Draft}

/-- **A row of a request** stays its row. -/
theorem Makes.step {row : Batch} (makes : Makes w pid request b row) (moved : Move D A actor w w') :
    ∃ row', Makes w' pid request b row' ∧ Kept row row' := by
  obtain ⟨owner, stored, u, posted⟩ := makes
  rcases moved.at b with same | changed
  · refine ⟨row, ⟨?_, ?_, u, ?_⟩, Kept.refl row⟩ <;> rw [same] <;> assumption
  · obtain ⟨row', stored', kept⟩ := changed.kept stored
    exact ⟨row', ⟨changed.owner owner, stored', u, posted.frame (changed.input_kept stored) kept⟩, kept⟩

/-- The row that was loaded, over a step. -/
theorem loaded_step {row : Batch} {loaded : Option Batch} (makes : Makes w pid request b row)
    (since : ∀ r, loaded = some r → Kept r row) (moved : Move D A actor w w') :
    ∃ row', Makes w' pid request b row' ∧ ∀ r, loaded = some r → Kept r row' := by
  obtain ⟨row', makes', kept⟩ := makes.step moved
  exact ⟨row', makes', fun r same => (since r same).trans kept⟩

theorem owned_before (moved : Move D A actor w w') (stranger : actor ≠ .handler pid)
    (owned : (view w' b).owner = some pid) : (view w b).owner = some pid := by
  rcases moved.at b with same | changed
  · exact same ▸ owned
  · exact changed.owned_before stranger owned

/-- **A step of somebody else** leaves what a draft means. -/
theorem Draft.Means.other (means : n.Means pid request w) (inv : Inv D A w)
    (moved : Move D A actor w w') (stranger : actor ≠ .handler pid) : n.Means pid request w' := by
  cases n with
  | blank => exact fun b owned => means b (owned_before moved stranger owned)
  | posted b loaded =>
      obtain ⟨only, row, makes, since⟩ := means
      exact ⟨fun b' owned => only b' (owned_before moved stranger owned), loaded_step makes since moved⟩
  | writing b text =>
      obtain ⟨only, drawn, owner, unborn, input⟩ := means
      refine ⟨fun b' owned => only b' (owned_before moved stranger owned), ?_⟩
      rcases moved.at b with same | changed
      · exact ⟨drawn, same ▸ owner, same ▸ unborn, same ▸ input⟩
      · obtain ⟨unborn', dir⟩ := changed.unborn (inv.sound b) stranger owner unborn
        exact ⟨drawn, changed.owner owner, unborn', dir ▸ input⟩

/-! ### Its own steps -/

theorem Makes.still {row : Batch} (makes : Makes w pid request b row) (still : Still w w') :
    Makes w' pid request b row := by
  obtain ⟨owner, stored, u, posted⟩ := makes
  exact ⟨(still.owner b).trans owner, (still.row b).trans stored, u, by rw [still.dir b]; exact posted⟩

/-- What a draft means depends on the owners, the rows and the directories. -/
theorem Draft.Means.still (means : n.Means pid request w) (still : Still w w') :
    n.Means pid request w' := by
  cases n with
  | blank => exact fun b owned => means b (still.owner b ▸ owned)
  | writing b text =>
      obtain ⟨only, drawn, owner, unborn, input⟩ := means
      exact ⟨fun b' owned => only b' (still.owner b' ▸ owned), drawn, (still.owner b).trans owner,
        (still.row b).trans unborn, by rw [still.dir b]; exact input⟩
  | posted b loaded =>
      obtain ⟨only, row, makes, since⟩ := means
      exact ⟨fun b' owned => only b' (still.owner b' ▸ owned), row, makes.still still, since⟩

variable {rd : RayData} {settings : Settings} {c : Choice}

/-- It draws its id. -/
theorem drawn_means {u : Ulid} (means : Draft.blank.Means pid request w) (inv : Inv D A w)
    (executed : exec rd pid .ulid c w = some (u, w')) :
    (Draft.writing (newBatchId u) none).Means pid request w' := by
  obtain ⟨unowned, becomes, touches⟩ := view_ulid rd pid executed
  refine ⟨fun b' owned => ?_, ⟨u, rfl⟩, ?_, ?_, nofun⟩
  · by_contra other
    rw [touches.others b' other] at owned
    exact means b' owned
  · rw [becomes]
  · rw [becomes]
    exact (inv.sound _).unowned unowned

/-- It changes its directory. -/
theorem written_means {text text' : Option Text} {d : Dir}
    (means : (Draft.writing b text).Means pid request w)
    (input : ∀ written, text' = some written → d.file .input = some written) :
    (Draft.writing b text').Means pid request (w.setDir b d) := by
  obtain ⟨only, drawn, owner, unborn, -⟩ := means
  have becomes := view_setDir w b d
  refine ⟨fun b' owned => ?_, drawn, ?_, ?_, ?_⟩
  · by_contra other
    rw [(touches_setDir w b d).others b' other] at owned
    exact other (only b' owned)
  all_goals
    rw [becomes]
    assumption

/-- It inserts its row. -/
theorem inserted_means {path : String} {a : Unit}
    (means : (Draft.writing b (some (wholeInput request))).Means pid request w)
    (executed : exec rd pid (.commit (.insert (newRow settings request b path))) c w = some (a, w')) :
    (Draft.posted b none).Means pid request w' := by
  obtain ⟨only, ⟨u, drawn⟩, owner, unborn, input⟩ := means
  have becomes := view_commit executed
  refine ⟨fun b' owned => ?_, (newRow settings request b path).row w.clock, ⟨?_, ?_, u, drawn, rfl, rfl,
    rfl, ?_⟩, fun _ same => by cases same⟩
  · rw [becomes] at owned
    exact only b' owned
  · rw [becomes]
    exact owner
  · rw [becomes]
    simp [Table.after, newRow]
  · rw [becomes]
    exact input _ rfl

/-- Operations that leave owners, rows and directories alone. -/
theorem still_exec {op : Op} (still : quietOp op = true ∨ op = .commit .clean ∨
      ∃ entrypoint env, op = .submit_job entrypoint env) {a : op.Res}
    (executed : exec rd pid op c w = some (a, w')) :
    Still w w' := by
  rcases still with quiet | rfl | ⟨entrypoint, env, rfl⟩
  · have same := quiet_exec quiet executed
    exact ⟨same.issued, same.table, same.dirs⟩
  · have same := quiet_clean executed
    exact ⟨same.issued, same.table, same.dirs⟩
  · obtain ⟨-, -, rfl⟩ := submit_exec rd pid entrypoint env executed
    exact ⟨rfl, rfl, rfl⟩

/-- **One operation** of a handler leads to the next note of its draft. -/
theorem draft_done {op : Op} {a : op.Res} (means : n.Means pid request w) (inv : Inv D A w)
    (moved : Move D A actor w w') (asks : (posts settings request).asks op n)
    (executed : exec rd pid op c w = some (a, w')) :
    ∃ n', (posts settings request).done op n a n' ∧ n'.Means pid request w' := by
  have still (same : quietOp op = true ∨ op = .commit .clean ∨
      ∃ entrypoint env, op = .submit_job entrypoint env) : n.Means pid request w' :=
    means.still (still_exec same executed)
  cases op with
  | ulid =>
      have blank : n = .blank := asks
      subst blank
      exact ⟨_, rfl, drawn_means means inv executed⟩
  | dir b op =>
      obtain ⟨d, performed, rfl⟩ := dir_exec rd pid executed
      cases op with
      | mkdir =>
          obtain ⟨text, rfl⟩ := asks
          cases performed
          exact ⟨_, rfl, written_means means means.2.input⟩
      | create f =>
          cases f with
          | input =>
              obtain ⟨text, rfl⟩ := asks
              obtain ⟨-, same⟩ := Option.ite_none_right_eq_some.1 performed
              cases same
              refine ⟨_, rfl, written_means means ?_⟩
              rintro - ⟨⟩
              exact Dir.setFile_same _ _ _
          | results | success | failed => exact asks.elim
      | append f chunk =>
          cases f with
          | input =>
              obtain ⟨text, rfl⟩ := asks
              obtain ⟨content, found, same⟩ := Option.map_eq_some_iff.1 performed
              cases same
              refine ⟨_, ⟨text, rfl, rfl⟩, written_means means ?_⟩
              rintro - ⟨⟩
              cases found.symm.trans (means.2.input text rfl)
              exact Dir.setFile_same _ _ _
          | results | success | failed => exact asks.elim
      | _ => exact asks.elim
  | commit pending =>
      cases pending with
      | clean => exact ⟨n, rfl, still (.inr (.inl rfl))⟩
      | insert new =>
          obtain ⟨b, path, rfl, rfl⟩ := asks
          exact ⟨_, rfl, inserted_means means executed⟩
      | update key changes =>
          obtain ⟨b, loaded, rfl⟩ := asks
          obtain ⟨only, row, makes, since⟩ := means
          refine ⟨_, rfl, fun b' owned => only b' ?_, loaded_step makes since moved⟩
          rw [view_commit executed] at owned
          exact owned
  | get_batch b =>
      obtain ⟨loaded, rfl⟩ := asks
      cases executed
      obtain ⟨only, row, makes, -⟩ := means
      refine ⟨_, ⟨rfl, fun r found => Table.get_id found⟩, only, row, makes, fun r found => ?_⟩
      -- what is loaded is the row as it is
      cases found.symm.trans makes.stored
      exact Kept.refl row
  | submit_job entrypoint env => exact ⟨n, rfl, still (.inr (.inr ⟨entrypoint, env, rfl⟩))⟩
  | _ => exact ⟨n, rfl, still (.inl rfl)⟩

/-- The answer is lost, but the operation is done. -/
theorem lost_of_done {op : Op} {a : op.Res} {n' : Draft} (fallible : op.fallible = true)
    (done : (posts settings request).done op n a n') : (posts settings request).lost op n n' := by
  cases op with
  | ulid => cases fallible
  | get_batch b => exact ⟨a, done.1⟩
  | dir b op =>
      cases op with
      | create f | append f chunk => cases f <;> exact done
      | _ => exact done
  | commit pending => cases pending <;> exact done
  | _ => exact done

/-- **A step of a handler** leads its draft on. -/
theorem draft_step {p q : Proc BatchObject} {event : Event} {Q : BatchObject → Draft → Prop}
    (drafts : Drafts settings request p n Q) (means : n.Means pid request w) (inv : Inv D A w)
    (moved : Move D A actor w w') (stepped : Program.step (machine rd pid) p event w = some (q, w')) :
    ∃ n', Drafts settings request q n' Q ∧ n'.Means pid request w' := by
  refine Protocol.Follows.step (R := fun n w => n.Means pid request w) drafts stepped means ?_ ?_ ?_
  · exact fun op next a _ _ asks executed => draft_done means inv moved asks executed
  · exact fun _ _ _ _ _ _ _ => trivial
  · intro op next a e _ _ asks fallible executed
    obtain ⟨n', done, means'⟩ := draft_done means inv moved asks executed
    exact ⟨n', lost_of_done fallible done, means'⟩

end Moves

/-! ## Every run -/

section Runs

variable {D : Deployment} {A : Assumed} {s s' : State}

/-- The draft of a handler in the middle of its program. -/
def Drafting (D : Deployment) (w : World) (pid : Nat) (request : CreateBatchRequest)
    (program : Proc BatchObject) : Prop :=
  ∃ n, Drafts D.settings request program n Returned ∧ n.Means pid request w

/-- This process is the handler of this request. -/
def HandlerOf (procs : List Process) (pid : Nat) (request : CreateBatchRequest) : Prop :=
  ∃ p : Process, procs[pid]? = some p ∧ p.role = .handler request

/-- Every row goes back to its request. -/
structure Traced (D : Deployment) (s : State) : Prop where
  drafts : ∀ (pid : Nat) (request : CreateBatchRequest) (program : Proc BatchObject),
    s.procs[pid]? = some ⟨.handler request, true, program⟩ → Drafting D s.world pid request program
  rows : ∀ (b : String) (row : Batch), (view s.world b).row = some row →
    ∃ pid request, HandlerOf s.procs pid request ∧ Makes s.world pid request b row
  once : ∀ (b b' : String) (pid : Nat), (view s.world b).owner = some pid →
    (view s.world b').owner = some pid → b = b'
  born : ∀ (b : String) (pid : Nat), (view s.world b).owner = some pid → pid < s.procs.length

/-- The batch that a draft is about is the only one of its process. -/
theorem Draft.Means.once {n : Draft} {pid : Nat} {request : CreateBatchRequest} {w : World}
    (means : n.Means pid request w) {b b' : String} (owned : (view w b).owner = some pid)
    (owned' : (view w b').owner = some pid) : b = b' := by
  cases n with
  | blank => exact absurd owned (means b)
  | writing b | posted b => exact (means.1 _ owned).trans (means.1 _ owned').symm

/-- A step by which one handler goes on, or none does. -/
theorem Traced.onward (traced : Traced D s) (inv : Inv D A s.world) {a : Actor} {w' : World}
    {procs' : List Process} (moved : Move D A a s.world w')
    (roles : ∀ pid request, HandlerOf s.procs pid request → HandlerOf procs' pid request)
    (longer : s.procs.length ≤ procs'.length)
    (mine : ∀ pid, a = .handler pid → ∃ request n, HandlerOf procs' pid request ∧
      Draft.Means pid request w' n)
    (living : ∀ pid request program, procs'[pid]? = some ⟨.handler request, true, program⟩ →
      (a ≠ .handler pid ∧ s.procs[pid]? = some ⟨.handler request, true, program⟩) ∨
        Drafting D w' pid request program) : Traced D ⟨w', procs'⟩ := by
  refine ⟨?_, ?_, ?_, ?_⟩
  · intro pid request program found
    rcases living pid request program found with ⟨stranger, before⟩ | now
    · obtain ⟨n, drafts, means⟩ := traced.drafts pid request program before
      exact ⟨n, drafts, means.other inv moved stranger⟩
    · exact now
  · intro b row' found
    have here : (view w' b).row = some row' := found
    cases before : (view s.world b).row with
    | some row =>
        obtain ⟨pid, request, handler, makes⟩ := traced.rows b row before
        obtain ⟨row'', makes', -⟩ := makes.step moved
        cases makes'.stored.symm.trans here
        exact ⟨pid, request, roles pid request handler, makes'⟩
    | none =>
        -- the row is new: its handler has just inserted it
        rcases moved.at b with same | changed
        · rw [same, before] at here
          cases here
        · obtain ⟨pid, isHandler, owned⟩ := changed.newborn before here
          obtain ⟨request, n, handler, means⟩ := mine pid isHandler
          cases n with
          | blank => exact absurd owned (means b)
          | writing b' text =>
              obtain rfl := means.1 b owned
              rw [means.2.unborn] at here
              cases here
          | posted b' loaded =>
              obtain rfl := means.1 b owned
              obtain ⟨row, makes, -⟩ := means.2
              cases makes.stored.symm.trans here
              exact ⟨pid, request, handler, makes⟩
  · intro b b' pid owned owned'
    by_cases own : a = .handler pid
    · obtain ⟨request, n, -, means⟩ := mine pid own
      exact means.once owned owned'
    · exact traced.once b b' pid (owned_before moved own owned) (owned_before moved own owned')
  · intro b pid owned
    by_cases own : a = .handler pid
    · obtain ⟨request, n, ⟨p, found, -⟩, -⟩ := mine pid own
      exact (List.getElem?_eq_some_iff.1 found).1
    · exact Nat.lt_of_lt_of_le (traced.born b pid (owned_before moved own owned)) longer

theorem handler_set {procs : List Process} {pid : Nat} {p p' : Process} (found : procs[pid]? = some p)
    (same : p'.role = p.role) {q : Nat} {request : CreateBatchRequest}
    (handler : HandlerOf procs q request) : HandlerOf (procs.set pid p') q request := by
  obtain ⟨r, found', role⟩ := handler
  rcases getElem?_set_found found found' with ⟨rfl, new⟩ | old
  · exact ⟨p', new, same.trans role⟩
  · exact ⟨r, old, role⟩

theorem handler_append {procs : List Process} {p : Process} {q : Nat} {request : CreateBatchRequest}
    (handler : HandlerOf procs q request) : HandlerOf (procs ++ [p]) q request := by
  obtain ⟨old, found, role⟩ := handler
  obtain ⟨bound, -⟩ := List.getElem?_eq_some_iff.1 found
  exact ⟨old, (List.getElem?_append_left bound).trans found, role⟩

/-- A step that no handler takes, and that leaves owners, rows and directories alone. -/
theorem Traced.aside (traced : Traced D s) {w' : World} {procs' : List Process}
    (still : Still s.world w')
    (roles : ∀ pid request, HandlerOf s.procs pid request → HandlerOf procs' pid request)
    (longer : s.procs.length ≤ procs'.length)
    (living : ∀ pid request program, procs'[pid]? = some ⟨.handler request, true, program⟩ →
      s.procs[pid]? = some ⟨.handler request, true, program⟩ ∨
        pid = s.procs.length ∧ program = create_batch D.settings request) : Traced D ⟨w', procs'⟩ := by
  refine ⟨?_, ?_, ?_, ?_⟩
  · intro pid request program found
    rcases living pid request program found with before | ⟨rfl, rfl⟩
    · obtain ⟨n, drafts, means⟩ := traced.drafts pid request program before
      exact ⟨n, drafts, means.still still⟩
    · refine ⟨.blank, create_batch_drafts, fun b owned => ?_⟩
      exact Nat.lt_irrefl _ (traced.born b _ ((still.owner b).symm.trans owned))
  · intro b row found
    obtain ⟨pid, request, handler, makes⟩ := traced.rows b row ((still.row b).symm.trans found)
    exact ⟨pid, request, roles pid request handler, makes.still still⟩
  · exact fun b b' pid owned owned' => traced.once b b' pid ((still.owner b).symm.trans owned)
      ((still.owner b').symm.trans owned')
  · exact fun b pid owned =>
      Nat.lt_of_lt_of_le (traced.born b pid ((still.owner b).symm.trans owned)) longer

/-- A process ages. -/
theorem Traced.age (traced : Traced D s) {w' : World} (still : Still s.world w') {pid : Nat}
    {p p' : Process} (found : s.procs[pid]? = some p) (aged : Aged D p p') :
    Traced D ⟨w', s.procs.set pid p'⟩ := by
  refine traced.aside still (fun _ _ => handler_set found aged.role)
    (Nat.le_of_eq List.length_set.symm) fun q request program found' => .inl ?_
  rcases getElem?_set_one found' with ⟨rfl, new⟩ | ⟨-, old⟩
  · cases aged with
    | same => exact new ▸ found
    | dead =>
        have alive : true = false := congrArg Process.alive new
        cases alive
    | resweeps => cases new
  · exact old

/-- A process is started. -/
theorem Traced.append (traced : Traced D s) {w' : World} (still : Still s.world w') {p : Process}
    (isStart : Starts D s.world p) : Traced D ⟨w', s.procs ++ [p]⟩ := by
  refine traced.aside still (fun _ _ => handler_append) (by simp) ?_
  intro q request program found
  rcases getElem?_append_one found with before | ⟨last, isNew⟩
  · exact .inl before
  · subst isNew
    cases isStart
    exact .inr ⟨last, rfl⟩

/-- A process performs its next operation. -/
theorem Traced.act (traced : Traced D s) (safe : SysInv D A s) {pid : Nat} {event : Event} {p : Process}
    {next : Proc p.role.Result} {w' : World} (may : permitted D A (.act pid event) s = true)
    (found : s.procs[pid]? = some p) (alive : p.alive = true)
    (performed : Program.step (machine D.rd pid) p.program event s.world = some (next, w')) :
    Traced D ⟨w', s.procs.set pid { p with program := next }⟩ := by
  have moves := act_moves safe may found alive performed
  -- the draft of this process, if it is a handler
  have own : ∀ request program, ({ p with program := next } : Process) =
      ⟨.handler request, true, program⟩ → Drafting D w' pid request program := by
    intro request program isHandler
    obtain ⟨role, living, old⟩ := p
    cases isHandler
    obtain ⟨n, drafts, means⟩ := traced.drafts pid request old found
    exact draft_step drafts means safe.world moves performed
  obtain ⟨bound, -⟩ := List.getElem?_eq_some_iff.1 found
  have sameRole : ({ p with program := next } : Process).role = p.role := rfl
  refine traced.onward safe.world moves (fun _ _ => handler_set found sameRole)
    (Nat.le_of_eq List.length_set.symm) ?_ ?_
  · intro q isHandler
    obtain ⟨role, living, old⟩ := p
    cases role with
    | handler request =>
        cases isHandler
        cases alive
        obtain ⟨n, -, means⟩ := own request next rfl
        exact ⟨request, n, ⟨_, List.getElem?_set_self bound, rfl⟩, means⟩
    | poller | worker | reader => cases isHandler
  · intro q request program found'
    rcases getElem?_set_one found' with ⟨rfl, new⟩ | ⟨other, old⟩
    · exact .inr (own request program new.symm)
    · refine .inl ⟨fun isHandler => ?_, old⟩
      exact Role.actor_ne (Ne.symm other) p.role (.handler request) isHandler

/-- **Every step** keeps the trace. -/
theorem Traced.step (traced : Traced D s) (safe : SysInv D A s) {e : Step}
    (may : permitted D A e s = true) (stepped : Cluster.step D e s = some s') : Traced D s' := by
  have happened := stepped_of_step stepped
  obtain ⟨w', procs'⟩ := s'
  cases happened with
  | act found alive performed procs =>
      cases procs
      exact traced.act safe may found alive performed
  | spawn isStart _ still procs =>
      cases procs
      exact traced.append still isStart
  | age found aged _ still procs =>
      cases procs
      exact traced.age still found aged
  | rest _ still procs =>
      cases procs
      exact traced.aside still (fun _ _ handler => handler) (Nat.le_refl _) fun _ _ _ before => .inl before

theorem traced_init : Traced D .init where
  drafts := nofun
  rows := nofun
  once := nofun
  born := nofun

/-- **Every run** keeps the trace. -/
theorem reachable_traced (reachable : Reachable D A s) : Traced D s := by
  induction reachable with
  | init => exact traced_init
  | step before may stepped ih => exact ih.step (reachable_inv before) may stepped

/-- A row is the row of exactly one request. -/
theorem poster_unique (reachable : Reachable D A s) {row : Batch} (mem : row ∈ s.world.table) :
    ∃! pid, ∃ request, HandlerOf s.procs pid request ∧ Makes s.world pid request row.id row := by
  have found := (reachable_inv reachable).world.view_of_mem mem
  obtain ⟨pid, request, handler, makes⟩ := (reachable_traced reachable).rows row.id row found
  refine ⟨pid, ⟨request, handler, makes⟩, ?_⟩
  rintro pid' ⟨request', -, makes'⟩
  exact Option.some.inj (makes'.owner.symm.trans makes.owner)

/-- The object shows the row, as it was at some moment. -/
def ShowsRow (row : Batch) (object : BatchObject) : Prop :=
  ∃ loaded, _batch_row_to_object loaded = .ok object ∧ Kept loaded row

/-- A request that has returned, returned the object of its own row. -/
theorem returned_makes (reachable : Reachable D A s) {pid : Nat} {request : CreateBatchRequest}
    {object : BatchObject} (returned : s.procs[pid]? = some ⟨.handler request, true, .ret object⟩) :
    ∃ row, Makes s.world pid request object.id row ∧ ShowsRow row object := by
  obtain ⟨n, posted, means⟩ := (reachable_traced reachable).drafts pid request _ returned
  obtain ⟨loaded, rfl, shown⟩ : Returned object n := posted
  obtain ⟨-, row, makes, since⟩ := means
  exact ⟨row, makes, loaded, shown, since loaded rfl⟩

/-- **key theorem.** In every reachable state each row is the row of exactly one request, with
its model, its limit and its prompts; no request has two rows; and a request that has
returned, returned the object of its own row.  (No ULID is drawn twice: `exec` answers with one
that was not drawn before.) -/
theorem row_of_request (reachable : Reachable D A s) :
    (∀ row ∈ s.world.table, ∃! pid, ∃ request, HandlerOf s.procs pid request ∧
        Makes s.world pid request row.id row) ∧
      (∀ (pid : Nat) (request request' : CreateBatchRequest) (b b' : String) (row row' : Batch),
        Makes s.world pid request b row → Makes s.world pid request' b' row' → b = b') ∧
      ∀ (pid : Nat) (request : CreateBatchRequest) (object : BatchObject),
        s.procs[pid]? = some ⟨.handler request, true, .ret object⟩ →
          ∃ row, Makes s.world pid request object.id row ∧ ShowsRow row object := by
  refine ⟨fun row mem => poster_unique reachable mem, ?_, fun pid request object returned =>
    returned_makes reachable returned⟩
  exact fun pid request request' b b' row row' makes makes' =>
    (reachable_traced reachable).once b b' pid makes.owner makes'.owner

end Runs

/-- Two requests, one after the other. -/
def twoRequests : List Scene := opening ++ [.one (.post mixedRequest), .runs 2 300]

/-- What a handler has returned. -/
def Process.posted : Process → Option BatchObject
  | ⟨.handler _, true, .ret object⟩ => some object
  | _ => none

theorem posted_eq {p : Process} {object : BatchObject} (posted : p.posted = some object) :
    ∃ request, p = ⟨.handler request, true, .ret object⟩ := by
  unfold Process.posted at posted
  split at posted
  · cases posted
    exact ⟨_, rfl⟩
  · cases posted

/-- Both have returned, each the object of its own row. -/
theorem row_of_request_twice : ∃ s : State, Reachable sampleDeployment .all s ∧
    s.world.table.map (·.input_count) = [1, 3] ∧
    (∀ row ∈ s.world.table, ∃! pid, ∃ request, HandlerOf s.procs pid request ∧
      Makes s.world pid request row.id row) ∧
    (∃ object request row, object.id = newBatchId sampleUlid ∧ Makes s.world 0 request object.id row ∧
      ShowsRow row object) ∧
    ∃ object request row, object.id = newBatchId laterUlid ∧ Makes s.world 2 request object.id row ∧
      ShowsRow row object := by
  have value : (play sampleDeployment .all sunny twoRequests .init).map (fun s =>
      (s.world.table.map (·.input_count), (s.procs[0]?.bind Process.posted).map (·.id),
        (s.procs[2]?.bind Process.posted).map (·.id))) =
      some ([1, 3], some (newBatchId sampleUlid), some (newBatchId laterUlid)) := by decide +kernel
  obtain ⟨s, played, shown⟩ := Option.map_eq_some_iff.1 value
  obtain ⟨counts, objects⟩ := Prod.mk.inj shown
  obtain ⟨first, second⟩ := Prod.mk.inj objects
  have reachable := reachable_play .init played
  have origin := row_of_request reachable
  have own (pid : Nat) (b : String) (returned : (s.procs[pid]?.bind Process.posted).map (·.id) = some b) :
      ∃ object request row, object.id = b ∧ Makes s.world pid request object.id row ∧
        ShowsRow row object := by
    obtain ⟨object, posted, id⟩ := Option.map_eq_some_iff.1 returned
    obtain ⟨p, found, posted⟩ := Option.bind_eq_some_iff.1 posted
    obtain ⟨request, rfl⟩ := posted_eq posted
    obtain ⟨row, makes, shows⟩ := origin.2.2 pid request object found
    exact ⟨object, request, row, id, makes, shows⟩
  exact ⟨s, reachable, counts, origin.1, own 0 _ first, own 2 _ second⟩

end KubeRayBatch.Cluster
