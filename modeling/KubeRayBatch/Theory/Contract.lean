/-
# Theory.Contract -- proof outlines for programs that share a world

A `Contract` is what one process owes the others and may expect of them: an
invariant of the shared world, the steps the others may take between any two of
its operations (`rely`), the steps it takes itself (`guar`), the situations in
which it may ask for an operation (`allowed`), and those in which an operation it
asks for is performed (`grants`), an assumption about the run.

`Outline p P Q X` is a proof outline of `p` under a contract: from the assertion
`P`, every operation keeps the invariant and the guarantee, every assertion
between two operations is stable under the others' steps, `Q` holds when `p`
returns and `X` when it raises.  The outline says nothing about termination; a
program is a tree and always ends.

The rules (`bind`, `catching`, `forEach`, `weaken`, `exists_elim`, `frame`) compose
outlines; `Holds` is the outline of a process in the middle of its program, and
`Holds.step`, `Holds.interfere` and `Holds.asks` are what an interleaving needs.
A program that runs alone keeps its outline over a whole run (`Holds.run`).
-/
import KubeRayBatch.Theory.Program
import Mathlib.Tactic.Choose

namespace KubeRayBatch.Theory

set_option autoImplicit false

open Program

structure Contract (Op σ : Type) where
  inv : σ → Prop
  rely : σ → σ → Prop
  guar : σ → σ → Prop
  allowed : Op → σ → Prop
  grants : Op → σ → Prop

namespace Contract

variable {Op : Type} {Res : Op → Type} {ε α β σ Choice : Type}
variable (M : Machine Op Res σ Choice) (C : Contract Op σ)

/-- The same contract with a narrower guarantee. -/
def within (guar : σ → σ → Prop) : Contract Op σ := { C with guar := guar }

/-- No step of the others falsifies the assertion. -/
def Stable (P : σ → Prop) : Prop := ∀ s s', C.inv s → C.inv s' → C.rely s s' → P s → P s'

/-- One operation: asked for only when allowed, keeping the invariant and the
guarantee, and leaving a stable assertion for each answer. -/
structure Atomic (op : Op) (P : σ → Prop) (D : Res op → σ → Prop) (F : ε → σ → Prop) : Prop where
  stableDone : ∀ a, C.Stable (D a)
  stableFailed : ∀ e, C.Stable (F e)
  allowed : ∀ s, C.inv s → P s → C.allowed op s
  done : ∀ s c a s', C.inv s → P s → C.grants op s → M.exec op c s = some (a, s') →
    C.inv s' ∧ C.guar s s' ∧ D a s' ∧ (M.fallible op = true → ∀ e, F e s')
  refused : M.fallible op = true → ∀ s e, C.inv s → P s → F e s

def Outline : Program Op Res ε α → (σ → Prop) → (α → σ → Prop) → (ε → σ → Prop) → Prop
  | .ret a, P, Q, _ => ∀ s, C.inv s → P s → Q a s
  | .raise e, P, _, X => ∀ s, C.inv s → P s → X e s
  | .call op next, P, Q, X => ∃ D F, Atomic M C op P D F ∧
      (∀ a, Outline (next (.ok a)) (D a) Q X) ∧ ∀ e, Outline (next (.error e)) (F e) Q X

variable {M C}

theorem stable_const (φ : Prop) : C.Stable fun _ => φ := fun _ _ _ _ _ h => h

theorem stable_and {P P' : σ → Prop} (first : C.Stable P) (second : C.Stable P') :
    C.Stable fun s => P s ∧ P' s :=
  fun s s' before after moved holds =>
    ⟨first s s' before after moved holds.1, second s s' before after moved holds.2⟩

theorem stable_exists {ι : Sort*} {P : ι → σ → Prop} (each : ∀ i, C.Stable (P i)) :
    C.Stable fun s => ∃ i, P i s :=
  fun s s' before after moved ⟨i, holds⟩ => ⟨i, each i s s' before after moved holds⟩

/-- An operation that only steps as anybody may: what is known of its answer is known
before it, and stable. -/
theorem Atomic.read {op : Op} {P : σ → Prop} {D : Res op → σ → Prop} {F : ε → σ → Prop}
    (stableDone : ∀ a, C.Stable (D a)) (stableFailed : ∀ e, C.Stable (F e))
    (allowed : ∀ s, C.inv s → P s → C.allowed op s)
    (idle : ∀ s c a s', C.inv s → M.exec op c s = some (a, s') →
      C.inv s' ∧ C.guar s s' ∧ C.rely s s')
    (answer : ∀ s c a s', C.inv s → P s → M.exec op c s = some (a, s') → D a s)
    (failed : ∀ s e, C.inv s → P s → F e s) : Atomic M C op P D F where
  stableDone := stableDone
  stableFailed := stableFailed
  allowed := allowed
  done := by
    intro s c a s' safe holds _ executed
    obtain ⟨safe', kept, moved⟩ := idle s c a s' safe executed
    exact ⟨safe', kept, stableDone a s s' safe safe' moved (answer s c a s' safe holds executed),
      fun _ e => stableFailed e s s' safe safe' moved (failed s e safe holds)⟩
  refused := fun _ s e safe holds => failed s e safe holds

namespace Outline

variable {P P' : σ → Prop} {Q Q' : α → σ → Prop} {X X' : ε → σ → Prop}

theorem weaken {p : Program Op Res ε α} (valid : Outline M C p P Q X)
    (pre : ∀ s, C.inv s → P' s → P s) (post : ∀ a s, C.inv s → Q a s → Q' a s)
    (failed : ∀ e s, C.inv s → X e s → X' e s) : Outline M C p P' Q' X' := by
  induction p generalizing P P' with
  | ret a => exact fun s safe holds => post a s safe (valid s safe (pre s safe holds))
  | raise e => exact fun s safe holds => failed e s safe (valid s safe (pre s safe holds))
  | call op next ih =>
      obtain ⟨D, F, atomic, ok, error⟩ := valid
      refine ⟨D, F, ⟨atomic.stableDone, atomic.stableFailed, ?_, ?_, ?_⟩, ?_, ?_⟩
      · exact fun s safe holds => atomic.allowed s safe (pre s safe holds)
      · exact fun s c a s' safe holds => atomic.done s c a s' safe (pre s safe holds)
      · exact fun fallible s e safe holds => atomic.refused fallible s e safe (pre s safe holds)
      · exact fun a => ih (.ok a) (ok a) fun _ _ holds => holds
      · exact fun e => ih (.error e) (error e) fun _ _ holds => holds

theorem pre {p : Program Op Res ε α} (valid : Outline M C p P Q X)
    (pre : ∀ s, C.inv s → P' s → P s) : Outline M C p P' Q X :=
  valid.weaken pre (fun _ _ _ holds => holds) fun _ _ _ holds => holds

theorem ret {a : α} (post : ∀ s, C.inv s → P s → Q a s) :
    Outline M C (.ret a : Program Op Res ε α) P Q X := post

theorem raise {e : ε} (failed : ∀ s, C.inv s → P s → X e s) :
    Outline M C (.raise e : Program Op Res ε α) P Q X := failed

theorem bind {p : Program Op Res ε β} {f : β → Program Op Res ε α} {R : β → σ → Prop}
    (first : Outline M C p P R X) (rest : ∀ b, Outline M C (f b) (R b) Q X) :
    Outline M C (p.bind f) P Q X := by
  induction p generalizing P with
  | ret b => exact (rest b).pre first
  | raise e => exact first
  | call op next ih =>
      obtain ⟨D, F, atomic, ok, error⟩ := first
      exact ⟨D, F, atomic, fun a => ih (.ok a) (ok a), fun e => ih (.error e) (error e)⟩

/-- One operation, then the rest. -/
theorem ask {op : Op} {D : Res op → σ → Prop} {F : ε → σ → Prop} {f : Res op → Program Op Res ε α}
    (atomic : Atomic M C op P D F) (failed : ∀ e s, C.inv s → F e s → X e s)
    (rest : ∀ a, Outline M C (f a) (D a) Q X) :
    Outline M C ((Program.ask op).bind f) P Q X :=
  ⟨D, F, atomic, rest, failed⟩

/-- One operation and nothing after it. -/
theorem only {op : Op} {D : Res op → σ → Prop} {F : ε → σ → Prop} {Q : Res op → σ → Prop}
    (atomic : Atomic M C op P D F) (failed : ∀ e s, C.inv s → F e s → X e s)
    (post : ∀ a s, C.inv s → D a s → Q a s) : Outline M C (Program.ask op) P Q X :=
  ⟨D, F, atomic, post, failed⟩

theorem catching {p : Program Op Res ε α} {handler : ε → Option (Program Op Res ε α)}
    {Y : ε → σ → Prop} (body : Outline M C p P Q Y)
    (handled : ∀ e, Outline M C ((handler e).getD (.raise e)) (Y e) Q X) :
    Outline M C (p.catching handler) P Q X := by
  induction p generalizing P with
  | ret a => exact body
  | raise e => exact (handled e).pre body
  | call op next ih =>
      obtain ⟨D, F, atomic, ok, error⟩ := body
      exact ⟨D, F, atomic, fun a => ih (.ok a) (ok a), fun e => ih (.error e) (error e)⟩

/-- A loop: the assertion speaks of the items still to come. -/
theorem forEach {body : β → Program Op Res ε Unit} {I : List β → σ → Prop}
    (each : ∀ x xs, Outline M C (body x) (I (x :: xs)) (fun _ => I xs) X) (xs : List β) :
    Outline M C (Program.forEach xs body) (I xs) (fun _ => I []) X := by
  induction xs with
  | nil => exact fun s _ holds => holds
  | cons x xs ih => exact bind (each x xs) fun _ => ih

/-- A value known only to exist before the program runs may be fixed. -/
theorem exists_elim {ι : Sort*} {p : Program Op Res ε α} {P : ι → σ → Prop}
    (each : ∀ i, Outline M C p (P i) Q X) : Outline M C p (fun s => ∃ i, P i s) Q X := by
  induction p generalizing P with
  | ret a => exact fun s safe ⟨i, holds⟩ => each i s safe holds
  | raise e => exact fun s safe ⟨i, holds⟩ => each i s safe holds
  | call op next ih =>
      choose D F atomic ok error using each
      refine ⟨fun a s => ∃ i, D i a s, fun e s => ∃ i, F i e s, ⟨?_, ?_, ?_, ?_, ?_⟩, ?_, ?_⟩
      · exact fun a => stable_exists fun i => (atomic i).stableDone a
      · exact fun e => stable_exists fun i => (atomic i).stableFailed e
      · exact fun s safe ⟨i, holds⟩ => (atomic i).allowed s safe holds
      · rintro s c a s' safe ⟨i, holds⟩ granted executed
        obtain ⟨safe', kept, answer, lost⟩ := (atomic i).done s c a s' safe holds granted executed
        exact ⟨safe', kept, ⟨i, answer⟩, fun fallible e => ⟨i, lost fallible e⟩⟩
      · exact fun fallible s e safe ⟨i, holds⟩ => ⟨i, (atomic i).refused fallible s e safe holds⟩
      · exact fun a => ih (.ok a) fun i => ok i a
      · exact fun e => ih (.error e) fun i => error i e

/-- A fact that does not mention the world is available throughout. -/
theorem const_elim {φ : Prop} {p : Program Op Res ε α} (given : φ → Outline M C p P Q X) :
    Outline M C p (fun s => φ ∧ P s) Q X :=
  (exists_elim (P := fun (_ : φ) s => P s) given).pre fun _ _ ⟨h, holds⟩ => ⟨h, holds⟩

/-- **The frame rule**: a stable fact that the steps of a narrower guarantee keep is kept
by a program that follows it. -/
theorem frame {p : Program Op Res ε α} {G : σ → σ → Prop} {R : σ → Prop}
    (valid : Outline M (C.within G) p P Q X) (stable : C.Stable R)
    (own : ∀ s s', C.inv s → C.inv s' → G s s' → C.guar s s' ∧ (R s → R s')) :
    Outline M C p (fun s => P s ∧ R s) (fun a s => Q a s ∧ R s) fun e s => X e s ∧ R s := by
  induction p generalizing P with
  | ret a => exact fun s safe ⟨holds, framed⟩ => ⟨valid s safe holds, framed⟩
  | raise e => exact fun s safe ⟨holds, framed⟩ => ⟨valid s safe holds, framed⟩
  | call op next ih =>
      obtain ⟨D, F, atomic, ok, error⟩ := valid
      refine ⟨fun a s => D a s ∧ R s, fun e s => F e s ∧ R s, ⟨?_, ?_, ?_, ?_, ?_⟩,
        fun a => ih (.ok a) (ok a), fun e => ih (.error e) (error e)⟩
      · exact fun a => stable_and (atomic.stableDone a) stable
      · exact fun e => stable_and (atomic.stableFailed e) stable
      · exact fun s safe ⟨holds, _⟩ => atomic.allowed s safe holds
      · rintro s c a s' safe ⟨holds, framed⟩ granted executed
        obtain ⟨safe', kept, answer, lost⟩ := atomic.done s c a s' safe holds granted executed
        obtain ⟨owed, framing⟩ := own s s' safe safe' kept
        have framed' : R s' := framing framed
        exact ⟨safe', owed, ⟨answer, framed'⟩, fun fallible e => ⟨lost fallible e, framed'⟩⟩
      · exact fun fallible s e safe ⟨holds, framed⟩ =>
          ⟨atomic.refused fallible s e safe holds, framed⟩

end Outline

/-! ## A process in the middle of its program -/

variable (M C)

/-- The process stands at a point of an outline whose assertion holds. -/
def Holds (p : Program Op Res ε α) (Q : α → σ → Prop) (X : ε → σ → Prop) (s : σ) : Prop :=
  ∃ P, C.Stable P ∧ P s ∧ Outline M C p P Q X

variable {M C} {p p' : Program Op Res ε α} {Q : α → σ → Prop} {X : ε → σ → Prop} {s s' : σ}

/-- **Its own step** keeps the invariant and the guarantee, and the outline. -/
theorem Holds.step (here : Holds M C p Q X s) (safe : C.inv s) {event : Event ε Choice}
    (granted : ∀ op, Performs p event op → C.grants op s)
    (stepped : step M p event s = some (p', s')) :
    C.inv s' ∧ (s' = s ∨ C.guar s s') ∧ Holds M C p' Q X s' := by
  obtain ⟨P, -, holds, outline⟩ := here
  cases p with
  | ret a => cases stepped
  | raise e => cases stepped
  | call op next =>
      obtain ⟨D, F, atomic, ok, error⟩ := outline
      simp only [Program.step] at stepped
      split at stepped
      · rename_i fate
        have performed : Performs (.call op next) event op := ⟨⟨next, rfl⟩, by simp [fate]⟩
        obtain ⟨⟨a, t⟩, executed, same⟩ := Option.map_eq_some_iff.1 stepped
        cases same
        obtain ⟨safe', kept, answer, -⟩ :=
          atomic.done _ _ _ _ safe holds (granted op performed) executed
        exact ⟨safe', Or.inr kept, D a, atomic.stableDone a, answer, ok a⟩
      · rename_i e fate
        split at stepped
        · rename_i fallible
          cases stepped
          exact ⟨safe, Or.inl rfl, F e, atomic.stableFailed e,
            atomic.refused fallible _ _ safe holds, error e⟩
        · cases stepped
      · rename_i e fate
        split at stepped
        · rename_i fallible
          have performed : Performs (.call op next) event op := ⟨⟨next, rfl⟩, by simp [fate]⟩
          obtain ⟨⟨a, t⟩, executed, same⟩ := Option.map_eq_some_iff.1 stepped
          cases same
          obtain ⟨safe', kept, -, lost⟩ :=
            atomic.done _ _ _ _ safe holds (granted op performed) executed
          exact ⟨safe', Or.inr kept, F e, atomic.stableFailed e, lost fallible e, error e⟩
        · cases stepped

/-- **A whole run** of a process that nobody interferes with. -/
theorem Holds.run (here : Holds M C p Q X s) (safe : C.inv s) (all : ∀ op s, C.grants op s)
    {events : List (Event ε Choice)} (ran : run M events p s = some (p', s')) :
    C.inv s' ∧ Holds M C p' Q X s' := by
  induction events generalizing p s with
  | nil => cases ran; exact ⟨safe, here⟩
  | cons event events ih =>
      simp only [Program.run] at ran
      split at ran
      · rename_i q t stepped
        obtain ⟨safe', -, here'⟩ := here.step safe (fun op _ => all op s) stepped
        exact ih here' safe' ran
      · cases ran

/-- **A run with the operation** has what the operation makes and the guarantee keeps. -/
theorem Holds.run_makes {o : Op} {K : σ → Prop} (kept : ∀ s s', C.guar s s' → K s → K s')
    (made : ∀ c s a s', M.exec o c s = some (a, s') → K s') (here : Holds M C p Q X s)
    (safe : C.inv s) (all : ∀ op s, C.grants op s) {events : List (Event ε Choice)}
    (ran : Program.run M events p s = some (p', s')) (either : K s ∨ RunPerforms M o events p s) : K s' := by
  induction events generalizing p s with
  | nil =>
      cases ran
      rcases either with holds | never
      · exact holds
      · exact never.elim
  | cons event events ih =>
      simp only [Program.run] at ran
      split at ran
      · rename_i q t stepped
        obtain ⟨safe', moved, here'⟩ := here.step safe (fun op _ => all op s) stepped
        refine ih here' safe' ran ?_
        rcases either with holds | performed | ⟨q', t', stepped', later⟩
        · left
          rcases moved with rfl | moved
          · exact holds
          · exact kept s t moved holds
        · obtain ⟨a, executed⟩ := step_performs M stepped performed
          exact .inl (made _ s a t executed)
        · cases stepped.symm.trans stepped'
          exact .inr later
      · cases ran

/-- **A step of another process** that the rely admits leaves the outline. -/
theorem Holds.interfere (here : Holds M C p Q X s) (before : C.inv s) (after : C.inv s')
    (moved : C.rely s s') : Holds M C p Q X s' := by
  obtain ⟨P, stable, holds, outline⟩ := here
  exact ⟨P, stable, stable s s' before after moved holds, outline⟩

/-- An operation is asked for only where it is allowed. -/
theorem Holds.asks {op : Op} {next : Except ε (Res op) → Program Op Res ε α}
    (here : Holds M C (.call op next) Q X s) (safe : C.inv s) : C.allowed op s := by
  obtain ⟨P, -, holds, D, F, atomic, -⟩ := here
  exact atomic.allowed s safe holds

theorem Holds.returned {a : α} (here : Holds M C (.ret a : Program Op Res ε α) Q X s)
    (safe : C.inv s) : Q a s := by
  obtain ⟨P, -, holds, outline⟩ := here
  exact outline s safe holds

theorem Holds.raised {e : ε} (here : Holds M C (.raise e : Program Op Res ε α) Q X s)
    (safe : C.inv s) : X e s := by
  obtain ⟨P, -, holds, outline⟩ := here
  exact outline s safe holds

end Contract

end KubeRayBatch.Theory
