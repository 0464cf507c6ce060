/-
# Cluster.Sharing -- what the parties owe each other

The contract of every party is the same: keep the invariant of every batch, and change
one view at a time by a step that is yours (`Move`); expect the same of everybody else
(`Other`).  What differs is what a party may rely on when it asks: `Expected` lists the
questions whose answer the code takes for granted.

Most programs work on one batch, so their outlines speak of one view (`Follows`); the
rules below reduce an outline to the changes of that view.
-/
import KubeRayBatch.Cluster.Invariant

namespace KubeRayBatch.Cluster

open Theory Api Worker

set_option autoImplicit false

section Sharing

variable (D : Deployment) (A : Assumed)

/-- **The invariant of the cluster.** -/
structure Inv (w : World) : Prop where
  keyed : w.table.Keyed
  distinct : JobsDistinct w
  owned : ∀ job ∈ w.jobs, ∃ b, (view w b).job = some job
  sound : ∀ b, Sound D A b w.clock (view w b)

/-- A step that changes at most one view, or only lets time pass. -/
inductive MoveAt (b : String) (actor : Actor) (w w' : World) : Prop where
  | same (views : ∀ b, view w' b = view w b) (clock : A.clock = true → w.clock ≤ w'.clock)
  | change (touches : Touches b w w')
      (changed : Change D A b w.clock actor (view w b) (view w' b))

def Move (actor : Actor) (w w' : World) : Prop := ∃ b, MoveAt D A b actor w w'

/-- Somebody else: another process, and not a second poller where there is only one. -/
def Other (me a : Actor) : Prop :=
  a ≠ me ∧ (A.alone = true → me.isPoller = true → a.isPoller = false)

/-- What the code takes for granted when it asks. -/
def Expected : Actor → Op → World → Prop
  | .handler _, .get_batch b, w => (view w b).row.isSome = true
  | .poller _, .get_batch b, w => (view w b).row.isSome = true
  | .poller _, .dir b (.exists .success), w =>
      A.honest = true → ((view w b).dir.file .success).isSome = true
  | .worker _, .dir b (.exists .input), w => ((view w b).dir.file .input).isSome = true
  | .reader _, .dir b (.exists .results), w =>
      A.honest = true → ((view w b).dir.file .results).isSome = true
  | _, _, _ => True

/-- The line that `main` logs when it handles an exception whose text is empty.  A batch id
has 32 characters. -/
def silentLine (line : String) : Bool :=
  "Batch ".toList.isPrefixOf line.toList && line.toList.drop 38 == " FAILED: ".toList

/-- `main` handles no exception without a text. -/
def granted : Actor → Op → World → Bool
  | .worker _, .log .error line, _ => !A.spoken || !silentLine line
  | _, _, _ => true

def contract (me : Actor) : Contract Op World where
  inv := Inv D A
  rely := fun w w' => Quiet w w' ∨ ∃ a, Other A me a ∧ Move D A a w w'
  guar := Move D A me
  allowed := Expected A me
  grants := fun op w => granted A me op w = true

/-- No step of the others falsifies a statement about one view. -/
def StableView (me : Actor) (b : String) (K : View → Prop) : Prop :=
  ∀ a now v v', Other A me a → Sound D A b now v → Change D A b now a v v' → K v → K v'

end Sharing

variable {D : Deployment} {A : Assumed}

/-! ## Steps and the invariant -/

section Steps

variable {b : String} {actor : Actor} {w w' : World}

theorem Inv.init : Inv D A .init where
  keyed := List.nodup_nil
  distinct := List.nodup_nil
  owned := fun _ mem => absurd mem List.not_mem_nil
  sound := fun _ => Sound.init

/-- A step that leaves every view as it is. -/
theorem Inv.same (inv : Inv D A w) (table : w'.table = w.table) (jobs : w'.jobs = w.jobs)
    (views : ∀ b, view w' b = view w b) (clock : A.clock = true → w.clock ≤ w'.clock) :
    Inv D A w' where
  keyed := table ▸ inv.keyed
  distinct := by
    unfold JobsDistinct
    rw [jobs]
    exact inv.distinct
  owned := by
    intro job mem
    rw [jobs] at mem
    obtain ⟨b, mine⟩ := inv.owned job mem
    exact ⟨b, views b ▸ mine⟩
  sound := fun b => by
    rw [views b]
    exact (inv.sound b).tick clock

theorem Inv.quiet (inv : Inv D A w) (quiet : Quiet w w') : Inv D A w' :=
  inv.same quiet.table quiet.jobs quiet.view fun _ => quiet.clock ▸ Nat.le_refl w.clock

theorem Move.quiet (quiet : Quiet w w') : Move D A actor w w' :=
  ⟨"", .same quiet.view fun _ => quiet.clock ▸ Nat.le_refl w.clock⟩

/-- A step that changes one view by one of the changes. -/
theorem Inv.change (inv : Inv D A w) (touches : Touches b w w')
    (changed : Change D A b w.clock actor (view w b) (view w' b)) (keyed : w'.table.Keyed)
    (distinct : JobsDistinct w') (owned : ∀ job ∈ w'.jobs, ∃ b, (view w' b).job = some job) :
    Inv D A w' where
  keyed := keyed
  distinct := distinct
  owned := owned
  sound := by
    intro b'
    rw [touches.clock]
    by_cases same : b' = b
    · rw [same]
      exact (inv.sound b).change changed
    · rw [touches.others b' same]
      exact inv.sound b'

/-- What one step does to one view. -/
theorem Move.at (moved : Move D A actor w w') (b : String) :
    view w' b = view w b ∨ Change D A b w.clock actor (view w b) (view w' b) := by
  obtain ⟨b', views | ⟨touches, changed⟩⟩ := moved
  · exact .inl (views b)
  · by_cases here : b = b'
    · rw [here]
      exact .inr changed
    · exact .inl (touches.others b here)

end Steps

/-! ## Operations that change nothing -/

section Idle

variable {rd : RayData} {pid : Nat} {b : String}

/-- An operation that changes nothing but logs and counters. -/
def Idle (rd : RayData) (pid : Nat) (op : Op) : Prop :=
  ∀ c w (a : op.Res) w', exec rd pid op c w = some (a, w') → Quiet w w'

theorem idle_quiet {op : Op} (quiet : quietOp op = true) : Idle rd pid op :=
  fun _ _ _ _ executed => quiet_exec quiet executed

theorem idle_clean : Idle rd pid (.commit .clean) :=
  fun _ _ _ _ executed => quiet_clean executed

/-- A directory operation that only reads. -/
theorem idle_dir {op : DirOp}
    (reads : ∀ c d (a : op.Res) d', op.exec rd c d = some (a, d') → d' = d) :
    Idle rd pid (.dir b op) := by
  intro c w a w' executed
  obtain ⟨d', performed, rfl⟩ := dir_exec rd pid executed
  rw [reads c _ a d' performed, World.setDir_self]
  exact ⟨rfl, rfl, rfl, rfl, rfl⟩

theorem idle_exists (f : FileName) : Idle rd pid (.dir b (.exists f)) :=
  idle_dir fun _ _ _ _ performed => by cases performed; rfl

theorem idle_read_text (f : FileName) : Idle rd pid (.dir b (.read_text f)) := by
  refine idle_dir fun c d a d' performed => ?_
  obtain ⟨content, -, same⟩ := Option.map_eq_some_iff.1 performed
  cases same
  rfl

/-- Operations that change nothing are steps that anybody may take. -/
def Idles (C : Contract Op World) : Prop :=
  ∀ w w', C.inv w → Quiet w w' → C.inv w' ∧ C.guar w w' ∧ C.rely w w'

theorem contract_idles (me : Actor) : Idles (contract D A me) :=
  fun _ _ inv quiet => ⟨inv.quiet quiet, Move.quiet quiet, .inl quiet⟩

theorem within_idles (me : Actor) (b : String) :
    Idles ((contract D A me).within (MoveAt D A b me)) :=
  fun w _ inv quiet =>
    ⟨inv.quiet quiet, .same quiet.view fun _ => quiet.clock ▸ Nat.le_refl w.clock, .inl quiet⟩

section Reads

variable {C : Contract Op World} (idles : Idles C) {P X : World → Prop}

include idles in
theorem idle_atomic {o : Op} {R : o.Res → World → Prop} (idle : Idle rd pid o)
    (stableDone : ∀ a, C.Stable (R a)) (stableFailed : C.Stable X)
    (allowed : ∀ w, C.inv w → P w → C.allowed o w)
    (answer : ∀ c w a w', C.inv w → P w → exec rd pid o c w = some (a, w') → R a w)
    (failed : ∀ w, C.inv w → P w → X w) :
    Contract.Atomic (machine rd pid) C o P R fun (_ : PyException) => X :=
  Contract.Atomic.read stableDone (fun _ => stableFailed) allowed
    (fun w c a w' inv executed => idles w w' inv (idle c w a w' executed))
    (fun w c a w' inv holds executed => answer c w a w' inv holds executed)
    fun w _ inv holds => failed w inv holds

include idles in
/-- **A session**: its body, and the commit of what the body says. -/
theorem session_outline {α : Type} {body : Proc (Pending × α)} {R : Pending × α → World → Prop}
    {Q : α → World → Prop} (free : ∀ w, C.allowed .open_session w ∧ C.allowed .rollback w)
    (stable : C.Stable P) (stableFailed : C.Stable X) (enter : ∀ w, C.inv w → P w → X w)
    (inside : Contract.Outline (machine rd pid) C body P R fun _ => X)
    (commit : ∀ said, Contract.Outline (machine rd pid) C (ask (.commit said.1)) (R said)
      (fun _ => Q said.2) fun _ => X) :
    Contract.Outline (machine rd pid) C (session_scope body) P Q fun _ => X := by
  have opens : Contract.Atomic (machine rd pid) C .open_session P (fun _ => P)
      fun (_ : PyException) => X :=
    idle_atomic idles (idle_quiet rfl) (fun _ => stable) stableFailed (fun w _ _ => (free w).1)
      (fun _ _ _ _ _ holds _ => holds) enter
  have rolls : Contract.Atomic (machine rd pid) C .rollback X (fun _ => X)
      fun (_ : PyException) => X :=
    idle_atomic idles (idle_quiet rfl) (fun _ => stableFailed) stableFailed (fun w _ _ => (free w).2)
      (fun _ _ _ _ _ holds _ => holds) fun _ _ holds => holds
  refine Contract.Outline.ask opens (fun _ _ _ holds => holds) fun _ => ?_
  refine Contract.Outline.catching (Contract.Outline.bind inside fun said =>
    Contract.Outline.bind (commit said) fun _ => Contract.Outline.ret fun _ _ holds => holds) fun e => ?_
  by_cases caught : e.isinstance .exception = true
  · rw [if_pos caught]
    exact Contract.Outline.ask rolls (fun _ _ _ holds => holds) fun _ =>
      Contract.Outline.raise fun _ _ holds => holds
  · rw [if_neg caught]
    exact Contract.Outline.raise fun _ _ holds => holds

end Reads

end Idle

section Outlines

variable {me : Actor} {pid : Nat} {b : String} {α β : Type}

theorem StableView.stable {K : View → Prop} (stable : StableView D A me b K) :
    (contract D A me).Stable fun w => K (view w b) := by
  rintro w w' inv - (quiet | ⟨a, other, moved⟩) holds
  · show K (view w' b)
    rw [quiet.view b]
    exact holds
  rcases moved.at b with same | changed
  · show K (view w' b)
    rw [same]
    exact holds
  · exact stable a w.clock (view w b) (view w' b) other (inv.sound b) changed holds

theorem StableView.const (φ : Prop) : StableView D A me b fun _ => φ := fun _ _ _ _ _ _ _ h => h

theorem stable_true : StableView D A me b fun _ => True := StableView.const True

theorem StableView.and {K K' : View → Prop} (first : StableView D A me b K)
    (second : StableView D A me b K') : StableView D A me b fun v => K v ∧ K' v :=
  fun a now v v' other sound changed ⟨holds, holds'⟩ =>
    ⟨first a now v v' other sound changed holds, second a now v v' other sound changed holds'⟩

/-- A row that is there stays there. -/
theorem stable_present : StableView D A me b fun v => v.row.isSome = true := by
  intro a now v v' _ _ changed present
  obtain ⟨row, found⟩ := Option.isSome_iff_exists.1 present
  obtain ⟨row', found', -⟩ := changed.kept found
  exact Option.isSome_iff_exists.2 ⟨row', found'⟩

/-- An outline of a program that works on one batch, in terms of its view. -/
def Follows (D : Deployment) (A : Assumed) (me : Actor) (pid : Nat) (b : String) {α : Type}
    (p : Proc α) (K : View → Prop) (Q : α → View → Prop) (X : View → Prop) : Prop :=
  Contract.Outline (machine D.rd pid) ((contract D A me).within (MoveAt D A b me)) p
    (fun w => K (view w b)) (fun a w => Q a (view w b)) fun _ w => X (view w b)

namespace Follows

variable {K K' : View → Prop} {Q Q' : α → View → Prop} {X X' : View → Prop}

theorem weaken {p : Proc α} (valid : Follows D A me pid b p K Q X)
    (pre : ∀ now v, Sound D A b now v → K' v → K v)
    (post : ∀ now a v, Sound D A b now v → Q a v → Q' a v)
    (failed : ∀ now v, Sound D A b now v → X v → X' v) :
    Follows D A me pid b p K' Q' X' :=
  Contract.Outline.weaken valid (fun w inv => pre w.clock _ (inv.sound b))
    (fun a w inv => post w.clock a _ (inv.sound b)) fun _ w inv => failed w.clock _ (inv.sound b)

theorem pre {p : Proc α} (valid : Follows D A me pid b p K Q X)
    (pre : ∀ now v, Sound D A b now v → K' v → K v) : Follows D A me pid b p K' Q X :=
  valid.weaken pre (fun _ _ _ _ holds => holds) fun _ _ _ holds => holds

theorem ret {a : α} (post : ∀ now v, Sound D A b now v → K v → Q a v) :
    Follows D A me pid b (.ret a) K Q X :=
  Contract.Outline.ret fun w inv => post w.clock _ (inv.sound b)

theorem raise {e : PyException} (failed : ∀ now v, Sound D A b now v → K v → X v) :
    Follows D A me pid b (.raise e : Proc α) K Q X :=
  Contract.Outline.raise fun w inv => failed w.clock _ (inv.sound b)

theorem bind {p : Proc β} {f : β → Proc α} {R : β → View → Prop}
    (first : Follows D A me pid b p K R X) (rest : ∀ x, Follows D A me pid b (f x) (R x) Q X) :
    Follows D A me pid b (p.bind f) K Q X :=
  Contract.Outline.bind first rest

theorem catching {p : Proc α} {handler : PyException → Option (Proc α)}
    {Y : View → Prop} (body : Follows D A me pid b p K Q Y)
    (handled : ∀ e, Follows D A me pid b ((handler e).getD (.raise e)) Y Q X) :
    Follows D A me pid b (p.catching handler) K Q X :=
  Contract.Outline.catching body handled

theorem exists_elim {ι : Type} {p : Proc α} {K : ι → View → Prop}
    (each : ∀ i, Follows D A me pid b p (K i) Q X) :
    Follows D A me pid b p (fun v => ∃ i, K i v) Q X :=
  Contract.Outline.exists_elim each

theorem const_elim {φ : Prop} {p : Proc α} (given : φ → Follows D A me pid b p K Q X) :
    Follows D A me pid b p (fun v => φ ∧ K v) Q X :=
  Contract.Outline.const_elim given

/-- What a program does to one batch is a step of its process. -/
theorem framed {p : Proc α} (valid : Follows D A me pid b p K Q X) {R : World → Prop}
    (stable : (contract D A me).Stable R)
    (own : ∀ w w', Inv D A w → MoveAt D A b me w w' → R w → R w') :
    Contract.Outline (machine D.rd pid) (contract D A me) p (fun w => K (view w b) ∧ R w)
      (fun a w => Q a (view w b) ∧ R w) fun _ w => X (view w b) ∧ R w :=
  Contract.Outline.frame valid stable fun w w' inv _ moved => ⟨⟨b, moved⟩, own w w' inv moved⟩

theorem outline {p : Proc α} (valid : Follows D A me pid b p K Q X) :
    Contract.Outline (machine D.rd pid) (contract D A me) p (fun w => K (view w b))
      (fun a w => Q a (view w b)) fun _ w => X (view w b) :=
  Contract.Outline.weaken
    (valid.framed (R := fun _ => True) (Contract.stable_const True) fun _ _ _ _ => id)
    (fun _ _ holds => ⟨holds, trivial⟩) (fun _ _ _ holds => holds.1) fun _ _ _ holds => holds.1

theorem lift {r : Except PyException α} (post : ∀ now a v, Sound D A b now v → r = .ok a → K v → Q a v)
    (failed : ∀ now v, Sound D A b now v → K v → X v) :
    Follows D A me pid b (Api.lift r) K Q X := by
  cases r with
  | ok a => exact ret fun now v sound holds => post now a v sound rfl holds
  | error e => exact raise failed

/-- A loop over pieces: the assertion speaks of those that were done. -/
theorem pieces {items : List β} {body : β → Proc Unit} {I : List β → View → Prop}
    (each : ∀ before x rest, before ++ x :: rest = items →
      Follows D A me pid b (body x) (I before) (fun _ => I (before ++ [x])) X) :
    Follows D A me pid b (Program.forEach items body) (I []) (fun _ => I items) X := by
  have loop : ∀ rest before, before ++ rest = items →
      Follows D A me pid b (Program.forEach rest body) (I before) (fun _ => I items) X := by
    intro rest
    induction rest with
    | nil =>
        intro before whole
        rw [List.append_nil] at whole
        exact ret fun _ v _ holds => whole ▸ holds
    | cons x rest ih =>
        intro before whole
        exact bind (each before x rest whole) fun _ => ih (before ++ [x]) (by simpa using whole)
  exact loop items [] rfl

/-! ### One operation -/

/-- What an operation that changes the view is shown to do. -/
def Does (D : Deployment) (A : Assumed) (me : Actor) (pid : Nat) (b : String) (op : Op)
    (K : View → Prop) (Q : op.Res → View → Prop) (X : View → Prop) : Prop :=
  ∀ c w (a : op.Res) w', Inv D A w → K (view w b) → granted A me op w = true →
    exec D.rd pid op c w = some (a, w') →
    Inv D A w' ∧ MoveAt D A b me w w' ∧ Q a (view w' b) ∧ X (view w' b)

section Ask

variable {o : Op} {R : o.Res → View → Prop}
variable (stableDone : ∀ a, StableView D A me b (R a)) (stableFailed : StableView D A me b X)
variable (allowed : ∀ w, Inv D A w → K (view w b) → Expected A me o w)
variable (failed : ∀ now v, Sound D A b now v → K v → X v)

include stableDone stableFailed allowed failed in
theorem atomic_idle (idle : Idle D.rd pid o)
    (answer : ∀ c w a w', Inv D A w → K (view w b) → exec D.rd pid o c w = some (a, w') →
      R a (view w b)) :
    Contract.Atomic (machine D.rd pid) ((contract D A me).within (MoveAt D A b me)) o
      (fun w => K (view w b)) (fun a w => R a (view w b))
      fun (_ : PyException) w => X (view w b) :=
  idle_atomic (within_idles me b) idle (fun a => (stableDone a).stable) stableFailed.stable allowed
    answer fun w inv holds => failed w.clock _ (inv.sound b) holds

include stableDone stableFailed allowed failed in
/-- An operation that only reads, then the rest. -/
theorem read (idle : Idle D.rd pid o)
    (answer : ∀ c w a w', Inv D A w → K (view w b) → exec D.rd pid o c w = some (a, w') →
      R a (view w b))
    {f : o.Res → Proc α} (rest : ∀ a, Follows D A me pid b (f a) (R a) Q X) :
    Follows D A me pid b ((ask o).bind f) K Q X :=
  Contract.Outline.ask (atomic_idle stableDone stableFailed allowed failed idle answer)
    (fun _ _ _ holds => holds) rest

include stableDone stableFailed allowed failed in
theorem atomic_does (does : Does D A me pid b o K R X) :
    Contract.Atomic (machine D.rd pid) ((contract D A me).within (MoveAt D A b me)) o
      (fun w => K (view w b)) (fun a w => R a (view w b))
      fun (_ : PyException) w => X (view w b) where
  stableDone := fun a => (stableDone a).stable
  stableFailed := fun _ => stableFailed.stable
  allowed := allowed
  done := by
    intro w c a w' inv holds granted executed
    obtain ⟨inv', moved, answer, lost⟩ := does c w a w' inv holds granted executed
    exact ⟨inv', moved, answer, fun _ _ => lost⟩
  refused := fun _ w _ inv holds => failed w.clock _ (inv.sound b) holds

include stableDone stableFailed allowed failed in
/-- An operation that changes the view, then the rest. -/
theorem write (does : Does D A me pid b o K R X) {f : o.Res → Proc α}
    (rest : ∀ a, Follows D A me pid b (f a) (R a) Q X) :
    Follows D A me pid b ((ask o).bind f) K Q X :=
  Contract.Outline.ask (atomic_does stableDone stableFailed allowed failed does)
    (fun _ _ _ holds => holds) rest

include stableDone stableFailed allowed failed in
/-- An operation that changes the view, and nothing after it. -/
theorem writes (does : Does D A me pid b o K R X) : Follows D A me pid b (ask o) K R X :=
  Contract.Outline.only (atomic_does stableDone stableFailed allowed failed does)
    (fun _ _ _ holds => holds) fun _ _ _ holds => holds

end Ask

/-- Log, count, or open a session, and go on. -/
theorem pass {o : Op} (idle : Idle D.rd pid o) (stable : StableView D A me b K)
    (stableFailed : StableView D A me b X) (allowed : ∀ w, Expected A me o w)
    (failed : ∀ now v, Sound D A b now v → K v → X v) {f : o.Res → Proc α}
    (rest : ∀ a, Follows D A me pid b (f a) K Q X) :
    Follows D A me pid b ((ask o).bind f) K Q X :=
  read (fun _ => stable) stableFailed (fun w _ _ => allowed w) failed idle
    (fun _ _ _ _ _ holds _ => holds) rest

/-- An operation that changes nothing, and nothing after it. -/
theorem reads {o : Op} (stable : StableView D A me b K) (stableFailed : StableView D A me b X)
    (allowed : ∀ w, Inv D A w → K (view w b) → Expected A me o w)
    (failed : ∀ now v, Sound D A b now v → K v → X v) (idle : Idle D.rd pid o) :
    Follows D A me pid b (ask o) K (fun _ => K) X :=
  Contract.Outline.only
    (atomic_idle (fun _ => stable) stableFailed allowed failed idle fun _ _ _ _ _ holds _ => holds)
    (fun _ _ _ holds => holds) fun _ _ _ holds => holds

theorem session {body : Proc (Pending × α)} {R : Pending × α → View → Prop}
    (stable : StableView D A me b K) (stableFailed : StableView D A me b X)
    (enter : ∀ now v, Sound D A b now v → K v → X v) (inside : Follows D A me pid b body K R X)
    (commit : ∀ said, Follows D A me pid b (ask (.commit said.1)) (R said) (fun _ => Q said.2) X) :
    Follows D A me pid b (session_scope body) K Q X :=
  session_outline (within_idles me b) (fun w => by cases me <;> exact ⟨trivial, trivial⟩)
    stable.stable stableFailed.stable (fun w inv => enter w.clock _ (inv.sound b)) inside commit

/-- **A transaction**: a session that loads a row, works on it, and commits what it says. -/
theorem transaction {body : Option Batch → Proc (Pending × Unit)} {L : Batch → View → Prop}
    {S : Batch → Pending → View → Prop} {Z : View → Prop} (stable : StableView D A me b K)
    (stableLoaded : ∀ row, StableView D A me b (L row)) (stableFailed : StableView D A me b X)
    (enter : ∀ now v, Sound D A b now v → K v → X v)
    (expected : ∀ w, (view w b).row.isSome = true → Expected A me (.get_batch b) w)
    (present : ∀ v, K v → v.row.isSome = true)
    (load : ∀ v row, K v → v.row = some row → L row v)
    (inside : ∀ row, Follows D A me pid b (body (some row)) (L row) (fun said => S row said.1) X)
    (commit : ∀ row pending, Follows D A me pid b (ask (.commit pending)) (S row pending)
      (fun _ => Z) X) :
    Follows D A me pid b
      (session_scope do
        let row : Option Batch ← ask (.get_batch b)
        body row)
      K (fun _ => Z) X := by
  refine session (R := fun said v => ∃ row, S row said.1 v) stable stableFailed enter ?_
    fun said => exists_elim fun row => commit row said.1
  refine read (o := .get_batch b) (R := fun (a : Option Batch) v => ∃ row, a = some row ∧ L row v)
    (fun a => ?_) stableFailed (fun w _ holds => expected w (present _ holds)) enter (idle_quiet rfl)
    ?_ fun (a : Option Batch) => ?_
  · rintro actor now v v' other sound changed ⟨row, same, holds⟩
    exact ⟨row, same, stableLoaded row actor now v v' other sound changed holds⟩
  · intro c w a w' _ holds executed
    cases executed
    obtain ⟨row, found⟩ := Option.isSome_iff_exists.1 (present _ holds)
    exact ⟨row, found, load _ row holds found⟩
  · refine exists_elim fun row => const_elim fun same => ?_
    subst same
    exact (inside row).weaken (fun _ _ _ holds => holds) (fun _ _ _ _ holds => ⟨row, holds⟩)
      fun _ _ _ holds => holds

end Follows

/-! ## The operations that change a view -/

section Does

variable {K : View → Prop} {X : View → Prop}

/-- A change that leaves the jobs alone. -/
theorem Inv.jobs_same {actor : Actor} {w w' : World} (inv : Inv D A w) (touches : Touches b w w')
    (changed : Change D A b w.clock actor (view w b) (view w' b)) (keyed : w'.table.Keyed)
    (jobs : w'.jobs = w.jobs) : Inv D A w' := by
  refine inv.change touches changed keyed ?_ ?_
  · unfold JobsDistinct
    rw [jobs]
    exact inv.distinct
  · intro job mem
    rw [jobs] at mem
    obtain ⟨b', mine⟩ := inv.owned job mem
    refine ⟨b', ?_⟩
    rw [view_job] at mine ⊢
    rw [jobs]
    exact mine

theorem does_dir {op : DirOp} {R : op.Res → View → Prop}
    (each : ∀ now v c a d, Sound D A b now v → K v → op.exec D.rd c v.dir = some (a, d) →
      Change D A b now me v { v with dir := d } ∧ R a { v with dir := d } ∧ X { v with dir := d }) :
    Follows.Does D A me pid b (.dir b op) K R X := by
  intro c w a w' inv holds _ executed
  obtain ⟨d, performed, rfl⟩ := dir_exec D.rd pid executed
  obtain ⟨changed, answer, lost⟩ := each w.clock _ c a d (inv.sound b) holds performed
  have touches := touches_setDir w b d
  rw [← view_setDir w b d] at changed answer lost
  exact ⟨inv.jobs_same touches changed inv.keyed rfl, .change touches changed, answer, lost⟩

theorem does_insert {new : NewBatch} {R : (Op.commit (.insert new)).Res → View → Prop}
    (mine : new.id = b)
    (each : ∀ now v, Sound D A b now v → K v →
      Change D A b now me v { v with row := some (new.row now) } ∧
        R () { v with row := some (new.row now) } ∧ X { v with row := some (new.row now) }) :
    Follows.Does D A me pid b (.commit (.insert new)) K R X := by
  intro c w a w' inv holds _ executed
  obtain ⟨changed, answer, lost⟩ := each w.clock _ (inv.sound b) holds
  have touches : Touches b w w' := mine ▸ touches_insert executed
  have becomes : view w' b = { view w b with row := some (new.row w.clock) } := by
    rw [view_commit executed, Table.after, if_pos mine.symm]
  rw [← becomes] at changed answer lost
  obtain ⟨table, committed, rfl⟩ := commit_exec D.rd pid _ executed
  exact ⟨inv.jobs_same touches changed (inv.keyed.commit committed) rfl, .change touches changed,
    answer, lost⟩

theorem does_update {changes : Changes} {R : (Op.commit (.update b changes)).Res → View → Prop}
    (each : ∀ now v, Sound D A b now v → K v →
      ∃ row, v.row = some row ∧ Change D A b now me v { v with row := some (changes.apply now row) } ∧
        R () { v with row := some (changes.apply now row) } ∧
        X { v with row := some (changes.apply now row) }) :
    Follows.Does D A me pid b (.commit (.update b changes)) K R X := by
  intro c w a w' inv holds _ executed
  obtain ⟨row, found, changed, answer, lost⟩ := each w.clock _ (inv.sound b) holds
  have touches : Touches b w w' := touches_update executed
  have becomes : view w' b = { view w b with row := some (changes.apply w.clock row) } := by
    rw [view_row] at found
    rw [view_commit executed, Table.after, if_pos rfl, found, Option.map_some]
  rw [← becomes] at changed answer lost
  obtain ⟨table, committed, rfl⟩ := commit_exec D.rd pid _ executed
  exact ⟨inv.jobs_same touches changed (inv.keyed.commit committed) rfl, .change touches changed,
    answer, lost⟩

theorem does_submit {entrypoint : String} {env : RuntimeEnv}
    {R : (Op.submit_job entrypoint env).Res → View → Prop}
    (mine : batchWord entrypoint = some b.toList)
    (each : ∀ now v id, Sound D A b now v → K v → v.job = none ∧
      Change D A b now me v { v with job := some (submittedJob id entrypoint env) } ∧
        R id { v with job := some (submittedJob id entrypoint env) } ∧
        X { v with job := some (submittedJob id entrypoint env) }) :
    Follows.Does D A me pid b (.submit_job entrypoint env) K R X := by
  intro c w (id : String) w' inv holds _ executed
  obtain ⟨unsubmitted, changed, answer, lost⟩ := each w.clock _ id (inv.sound b) holds
  obtain ⟨becomes, touches⟩ := view_submit mine unsubmitted executed
  rw [← becomes] at changed answer lost
  obtain ⟨fresh, -, rfl⟩ := submit_exec D.rd pid entrypoint env executed
  refine ⟨inv.change touches changed inv.keyed ?_ ?_, .change touches changed, answer, lost⟩
  · have distinct : (w.jobs.map (·.submission_id)).Nodup := inv.distinct
    unfold JobsDistinct
    rw [List.map_append, List.nodup_append]
    refine ⟨distinct, List.nodup_singleton _, ?_⟩
    intro id' old new isNew same
    have isId : id' = id := same.trans (List.mem_singleton.1 isNew)
    exact fresh (isId ▸ old)
  · intro job mem
    rcases List.mem_append.1 mem with old | new
    · obtain ⟨b', owned⟩ := inv.owned job old
      have other : b' ≠ b := by
        rintro rfl
        rw [unsubmitted] at owned
        cases owned
      exact ⟨b', touches.others b' other ▸ owned⟩
    · rw [List.mem_singleton.1 new]
      exact ⟨b, congrArg View.job becomes⟩

end Does

end Outlines

end KubeRayBatch.Cluster
