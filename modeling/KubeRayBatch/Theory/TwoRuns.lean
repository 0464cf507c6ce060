/-
# Theory.TwoRuns -- two runs that differ in a secret

A `Secrecy` splits the operations of a machine: `blind` operations see and change only
the public part of the state, `secret` operations change only the rest.  Two programs
are twins when they are equal but for what they write in secret: they may write
different texts, in different numbers of operations, but then go on alike.

* `Twin.unseen`: a secret write of one of them leaves them twins, and the public part
  of its state as it was;
* `Twin.seen`: any other event that happens in both runs leaves them twins, and the
  public parts equal.
-/
import KubeRayBatch.Theory.Program

namespace KubeRayBatch.Theory

set_option autoImplicit false

open Program

variable {Op : Type} {Res : Op → Type} {ε α β σ Choice L : Type}

/-- How operations treat a secret: what they write there, or that they are blind to it. -/
structure Secrecy (Op : Type) where
  secret : Op → Bool
  blind : Op → Prop
  /-- Operations that change nothing public. -/
  idle : Op → Prop
  disjoint : ∀ op, blind op → secret op = false

/-- The machine treats the public part of its state so. -/
structure Secrecy.Sound (Y : Secrecy Op) (M : Machine Op Res σ Choice) (public_part : σ → L) :
    Prop where
  blind_exec : ∀ op c s t a a' s' t', Y.blind op → public_part s = public_part t →
    M.exec op c s = some (a, s') → M.exec op c t = some (a', t') →
    a = a' ∧ public_part s' = public_part t'
  secret_exec : ∀ op c s a s', Y.secret op = true → M.exec op c s = some (a, s') →
    public_part s' = public_part s
  idle_exec : ∀ op c s a s', Y.idle op → M.exec op c s = some (a, s') →
    public_part s' = public_part s

namespace Secrecy

variable (Y : Secrecy Op)

/-! ## Twins -/

/-- A program that writes in secret and raises what its writes raise. -/
def Writes : Program Op Res ε Unit → Prop
  | .ret _ => True
  | .raise _ => False
  | .call op next => Y.secret op = true ∧ (∀ a, Writes (next (.ok a))) ∧
      ∀ e, next (.error e) = .raise e

/-- A program that begins with an operation without an effect, and raises what it raises. -/
def Opens : Program Op Res ε α → Prop
  | .call op next => Y.idle op ∧ ∀ e, next (.error e) = .raise e
  | _ => False

/-- Programs that differ in what they write in secret. -/
inductive Twin : Program Op Res ε α → Program Op Res ε α → Prop where
  | same {p : Program Op Res ε α} (blind : p.Uses Y.blind) : Twin p p
  | call {op : Op} {next next' : Except ε (Res op) → Program Op Res ε α} (blind : Y.blind op)
      (rest : ∀ answer, Twin (next answer) (next' answer)) : Twin (.call op next) (.call op next')
  | writes {p q : Program Op Res ε Unit} {k : Program Op Res ε α} (left : Y.Writes p)
      (right : Y.Writes q) (opens : Y.Opens k) (blind : k.Uses Y.blind) :
      Twin (p.bind fun _ => k) (q.bind fun _ => k)

/-- The program performs a secret write in this event. -/
def unseen (p : Program Op Res ε α) (event : Event ε Choice) : Bool :=
  match p, event.fate with
  | .call op _, .done => Y.secret op
  | _, _ => false

variable {Y}

theorem Writes.bind {p q : Program Op Res ε Unit} (first : Y.Writes p) (rest : Y.Writes q) :
    Y.Writes (p.bind fun _ => q) := by
  induction p with
  | ret _ => exact rest
  | raise e => exact first.elim
  | call op next ih =>
      obtain ⟨secret, writes, raises⟩ := first
      refine ⟨secret, fun a => ih (.ok a) (writes a), fun e => ?_⟩
      show (next (.error e)).bind _ = .raise e
      rw [raises e]
      rfl

theorem Writes.forEach {body : β → Program Op Res ε Unit} (each : ∀ x, Y.Writes (body x))
    (xs : List β) : Y.Writes (Program.forEach xs body) := by
  induction xs with
  | nil => trivial
  | cons x xs ih => exact (each x).bind ih

theorem Twin.symm {p q : Program Op Res ε α} (twin : Y.Twin p q) : Y.Twin q p := by
  induction twin with
  | same blind => exact .same blind
  | call blind _ ih => exact .call blind ih
  | writes left right opens blind => exact .writes right left opens blind

theorem Twin.ask {op : Op} {f g : Res op → Program Op Res ε α} (blind : Y.blind op)
    (rest : ∀ a, Y.Twin (f a) (g a)) :
    Y.Twin ((Program.ask op).bind f) ((Program.ask op).bind g) := by
  refine .call blind fun answer => ?_
  cases answer with
  | ok a => exact rest a
  | error e => exact .same trivial

/-! ## Steps -/

theorem unseen_call {op : Op} {next : Except ε (Res op) → Program Op Res ε α}
    {event : Event ε Choice} :
    Y.unseen (.call op next) event = true ↔ event.fate = .done ∧ Y.secret op = true := by
  unfold unseen
  cases event.fate <;> simp

/-- Blind operations are no secret writes. -/
theorem blind_seen {op : Op} (blind : Y.blind op)
    (next : Except ε (Res op) → Program Op Res ε α) (event : Event ε Choice) :
    Y.unseen (.call op next) event ≠ true := by
  intro hidden
  have secret := (unseen_call.1 hidden).2
  rw [Y.disjoint op blind] at secret
  cases secret

theorem uses_seen {p : Program Op Res ε α} (blind : p.Uses Y.blind) (event : Event ε Choice) :
    Y.unseen p event ≠ true := by
  cases p with
  | ret | raise => nofun
  | call op next => exact blind_seen blind.1 next event

/-- A program in the middle of its secret writes, or right after them. -/
inductive Between (k : Program Op Res ε α) : Program Op Res ε α → Prop where
  | writing {op : Op} {next : Except ε (Res op) → Program Op Res ε α} (secret : Y.secret op = true)
      (raises : ∀ e, next (.error e) = .raise e) : Between k (.call op next)
  | written : Between k k

theorem Writes.between {p : Program Op Res ε Unit} (writes : Y.Writes p)
    (k : Program Op Res ε α) : Between (Y := Y) k (p.bind fun _ => k) := by
  cases p with
  | ret done => exact .written
  | raise e => exact writes.elim
  | call op next =>
      refine .writing writes.1 fun e => ?_
      show (next (.error e)).bind _ = .raise e
      rw [writes.2.2 e]
      rfl

section Steps

variable {M : Machine Op Res σ Choice} {public_part : σ → L} (sound : Y.Sound M public_part)

include sound in
/-- **A secret write** leaves the programs twins, and the public part as it was. -/
theorem Twin.unseen {p q p' : Program Op Res ε α} {event : Event ε Choice} {s s' : σ}
    (twin : Y.Twin p q) (hidden : Y.unseen p event = true)
    (stepped : step M p event s = some (p', s')) :
    Y.Twin p' q ∧ public_part s' = public_part s := by
  cases twin with
  | same blind => exact absurd hidden (uses_seen blind event)
  | call blind rest => exact absurd hidden (blind_seen blind _ event)
  | @writes w v k left right opens blind =>
      cases w with
      | ret done => exact absurd hidden (uses_seen blind event)
      | raise e => exact left.elim
      | call op next =>
          obtain ⟨secret, more, -⟩ := left
          obtain ⟨fate, -⟩ := unseen_call.1 hidden
          rcases step_cases M stepped with ⟨a, -, executed, rfl⟩ | ⟨e, refused, -⟩ | ⟨e, a, lost, -⟩
          · exact ⟨.writes (more a) right opens blind,
              sound.secret_exec op event.choice s a s' secret executed⟩
          · exact nomatch fate.symm.trans refused
          · exact nomatch fate.symm.trans lost

include sound in
/-- One event, for the same blind operation, is answered alike. -/
theorem blind_step {op : Op} (blind : Y.blind op)
    {next next' : Except ε (Res op) → Program Op Res ε α} {event : Event ε Choice}
    {p' q' : Program Op Res ε α} {s t s' t' : σ} (alike : public_part s = public_part t)
    (left : step M (.call op next) event s = some (p', s'))
    (right : step M (.call op next') event t = some (q', t')) :
    public_part s' = public_part t' ∧ ∃ answer, p' = next answer ∧ q' = next' answer := by
  rcases step_cases M left with
    ⟨a, fate, executed, rfl⟩ | ⟨e, fate, rfl, rfl⟩ | ⟨e, a, fate, executed, rfl⟩
  all_goals
    rcases step_cases M right with
      ⟨a', fate', executed', rfl⟩ | ⟨e', fate', rfl, rfl⟩ | ⟨e', a', fate', executed', rfl⟩
    -- the fates are the same
    all_goals cases fate.symm.trans fate'
  · obtain ⟨rfl, public'⟩ :=
      sound.blind_exec op event.choice s t a a' s' t' blind alike executed executed'
    exact ⟨public', .ok a, rfl, rfl⟩
  · exact ⟨alike, .error e, rfl, rfl⟩
  · obtain ⟨-, public'⟩ :=
      sound.blind_exec op event.choice s t a a' s' t' blind alike executed executed'
    exact ⟨public', .error e, rfl, rfl⟩

include sound in
/-- A seen event that is answered stands after the writes; one that fails is raised. -/
theorem Between.step {k p p' : Program Op Res ε α} {event : Event ε Choice} {s s' : σ}
    (between : Between (Y := Y) k p) (opens : Y.Opens k) (seen : Y.unseen p event ≠ true)
    (stepped : Program.step M p event s = some (p', s')) :
    (event.fate = .done ∧ p = k) ∨ (∃ e, (event.fate = .refused e ∨ event.fate = .lost e) ∧
      p' = .raise e ∧ public_part s' = public_part s) := by
  cases between with
  | @writing op next secret raises =>
      rcases step_cases M stepped with
        ⟨a, fate, -⟩ | ⟨e, fate, rfl, rfl⟩ | ⟨e, a, fate, executed, rfl⟩
      · exact absurd (unseen_call.2 ⟨fate, secret⟩) seen
      · exact .inr ⟨e, .inl fate, raises e, rfl⟩
      · have kept := sound.secret_exec op event.choice s a s' secret executed
        exact .inr ⟨e, .inr fate, raises e, kept⟩
  | written =>
      cases k with
      | ret | raise => exact opens.elim
      | call op next =>
          obtain ⟨idle, raises⟩ := opens
          rcases step_cases M stepped with
            ⟨a, fate, -⟩ | ⟨e, fate, rfl, rfl⟩ | ⟨e, a, fate, executed, rfl⟩
          · exact .inl ⟨fate, rfl⟩
          · exact .inr ⟨e, .inl fate, raises e, rfl⟩
          · have kept := sound.idle_exec op event.choice s a s' idle executed
            exact .inr ⟨e, .inr fate, raises e, kept⟩

include sound in
theorem same_step {p p' q' : Program Op Res ε α} {event : Event ε Choice} {s t s' t' : σ}
    (blind : p.Uses Y.blind) (alike : public_part s = public_part t)
    (left : step M p event s = some (p', s')) (right : step M p event t = some (q', t')) :
    Y.Twin p' q' ∧ public_part s' = public_part t' := by
  cases p with
  | ret a => cases left
  | raise e => cases left
  | call op next =>
      obtain ⟨public', answer, rfl, rfl⟩ := blind_step sound blind.1 alike left right
      exact ⟨.same (blind.2 answer), public'⟩

include sound in
/-- **Any other event** of both runs leaves the programs twins, and the public parts equal. -/
theorem Twin.seen {p q p' q' : Program Op Res ε α} {event : Event ε Choice} {s t s' t' : σ}
    (twin : Y.Twin p q) (alike : public_part s = public_part t) (seen : Y.unseen p event ≠ true)
    (seen' : Y.unseen q event ≠ true) (left : step M p event s = some (p', s'))
    (right : step M q event t = some (q', t')) :
    Y.Twin p' q' ∧ public_part s' = public_part t' := by
  cases twin with
  | same blind => exact same_step sound blind alike left right
  | call blind rest =>
      obtain ⟨public', answer, rfl, rfl⟩ := blind_step sound blind alike left right
      exact ⟨rest answer, public'⟩
  | @writes w v k writes writes' opens blind =>
      rcases (writes.between k).step sound opens seen left with ⟨fate, after⟩ | ⟨e, fate, rfl, kept⟩
      all_goals
        rcases (writes'.between k).step sound opens seen' right with
          ⟨fate', after'⟩ | ⟨e', fate', rfl, kept'⟩
      · rw [after] at left
        rw [after'] at right
        exact same_step sound blind alike left right
      · rcases fate' with refused | lost
        · exact nomatch fate.symm.trans refused
        · exact nomatch fate.symm.trans lost
      · rcases fate with refused | lost
        · exact nomatch fate'.symm.trans refused
        · exact nomatch fate'.symm.trans lost
      · have same : e = e' := by
          rcases fate with fate | fate <;> rcases fate' with fate' | fate' <;>
            cases fate.symm.trans fate' <;> rfl
        cases same
        exact ⟨.same trivial, kept.trans (alike.trans kept'.symm)⟩

end Steps

theorem Writes.goes_on {p : Program Op Res ε Unit} {k : Program Op Res ε α} (writes : Y.Writes p)
    (opens : Y.Opens k) : (p.bind fun _ => k).ending = none := by
  cases p with
  | ret done =>
      cases k with
      | ret | raise => exact opens.elim
      | call op next => rfl
  | raise e => exact writes.elim
  | call op next => rfl

/-- Twins have ended alike. -/
theorem Twin.ending {p q : Program Op Res ε α} (twin : Y.Twin p q) : p.ending = q.ending := by
  cases twin with
  | same blind => rfl
  | call blind rest => rfl
  | writes left right opens blind => rw [left.goes_on opens, right.goes_on opens]

end Secrecy

end KubeRayBatch.Theory
