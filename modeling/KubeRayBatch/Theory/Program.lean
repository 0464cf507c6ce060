/-
# Theory.Program -- programs that ask the outside world for operations

A `Program` is a tree: it has returned, it has raised, or it asks for one
operation and continues with the answer, which is a result or an exception.
Nothing happens between two operations, so an interleaving, a cancellation or a
kill of a process is a fact about which operations were performed.

A `Machine` says what performing an operation does to the world.  Each operation
of a run has a `Fate`: it is performed and answered, it is refused (an exception
and no effect), or its answer is lost (the effect happens and the program still
sees an exception).  `step` and `run` are executable; `perform` runs a program to
its end under a policy that fixes every fate.
-/
import Mathlib.Logic.Basic

namespace KubeRayBatch.Theory

set_option autoImplicit false

inductive Program (Op : Type) (Res : Op → Type) (ε α : Type) : Type where
  | ret (a : α)
  | raise (e : ε)
  | call (op : Op) (next : Except ε (Res op) → Program Op Res ε α)

namespace Program

variable {Op : Type} {Res : Op → Type} {ε α β : Type}

/-! ## Building programs -/

def bind : Program Op Res ε α → (α → Program Op Res ε β) → Program Op Res ε β
  | .ret a, f => f a
  | .raise e, _ => .raise e
  | .call op next, f => .call op fun answer => (next answer).bind f

instance : Monad (Program Op Res ε) where
  pure := .ret
  bind := bind

/-- How the program has ended, if it has. -/
def ending : Program Op Res ε α → Option (Except ε α)
  | .ret a => some (.ok a)
  | .raise e => some (.error e)
  | .call _ _ => none

/-- Ask for one operation. -/
def ask (op : Op) : Program Op Res ε (Res op) :=
  .call op fun
    | .ok a => .ret a
    | .error e => .raise e

/-- `try p except ...`: the handler answers `none` for an exception it does not
catch. -/
def catching : Program Op Res ε α → (ε → Option (Program Op Res ε α)) → Program Op Res ε α
  | .ret a, _ => .ret a
  | .raise e, handler => (handler e).getD (.raise e)
  | .call op next, handler => .call op fun answer => (next answer).catching handler

/-- A `for` loop. -/
def forEach : List β → (β → Program Op Res ε Unit) → Program Op Res ε Unit
  | [], _ => .ret ()
  | x :: xs, body => (body x).bind fun _ => forEach xs body

@[simp] theorem pure_eq (a : α) : (pure a : Program Op Res ε α) = .ret a := rfl
@[simp] theorem bind_eq (p : Program Op Res ε α) (f : α → Program Op Res ε β) :
    p >>= f = p.bind f := rfl
@[simp] theorem ret_bind (a : α) (f : α → Program Op Res ε β) :
    (ret a : Program Op Res ε α).bind f = f a := rfl
@[simp] theorem raise_bind (e : ε) (f : α → Program Op Res ε β) :
    (raise e : Program Op Res ε α).bind f = .raise e := rfl

@[simp] theorem bind_ret (p : Program Op Res ε α) : p.bind .ret = p := by
  induction p with
  | ret a => rfl
  | raise e => rfl
  | call op next ih =>
      rw [bind]
      exact congrArg (call op) (funext ih)

theorem bind_assoc {γ : Type} (p : Program Op Res ε α) (f : α → Program Op Res ε β)
    (g : β → Program Op Res ε γ) : (p.bind f).bind g = p.bind fun a => (f a).bind g := by
  induction p with
  | ret a => rfl
  | raise e => rfl
  | call op next ih => exact congrArg (call op) (funext ih)

/-- The program asks only for operations that `uses` admits. -/
def Uses (uses : Op → Prop) : Program Op Res ε α → Prop
  | .ret _ => True
  | .raise _ => True
  | .call op next => uses op ∧ ∀ answer, (next answer).Uses uses

namespace Uses

variable {uses : Op → Prop}

theorem ask {op : Op} (used : uses op) : (Program.ask op : Program Op Res ε (Res op)).Uses uses := by
  refine ⟨used, fun answer => ?_⟩
  cases answer <;> trivial

theorem mono {uses' : Op → Prop} {p : Program Op Res ε α} (used : p.Uses uses)
    (wider : ∀ op, uses op → uses' op) : p.Uses uses' := by
  induction p with
  | ret a => trivial
  | raise e => trivial
  | call op next ih => exact ⟨wider op used.1, fun answer => ih answer (used.2 answer)⟩

theorem bind {p : Program Op Res ε β} {f : β → Program Op Res ε α} (first : p.Uses uses)
    (rest : ∀ b, (f b).Uses uses) : (p.bind f).Uses uses := by
  induction p with
  | ret b => exact rest b
  | raise e => trivial
  | call op next ih => exact ⟨first.1, fun answer => ih answer (first.2 answer)⟩

theorem catching {p : Program Op Res ε α} {handler : ε → Option (Program Op Res ε α)}
    (first : p.Uses uses) (handled : ∀ e, ((handler e).getD (.raise e)).Uses uses) :
    (p.catching handler).Uses uses := by
  induction p with
  | ret a => trivial
  | raise e => exact handled e
  | call op next ih => exact ⟨first.1, fun answer => ih answer (first.2 answer)⟩

theorem forEach {body : β → Program Op Res ε Unit} (each : ∀ x, (body x).Uses uses) (xs : List β) :
    (Program.forEach xs body).Uses uses := by
  induction xs with
  | nil => trivial
  | cons x xs ih => exact bind (each x) fun _ => ih

end Uses

/-! ## Running programs -/

/-- What becomes of an operation a program asks for. -/
inductive Fate (ε : Type) where
  | done
  | refused (e : ε)
  | lost (e : ε)

/-- One step of a run: the fate of the operation and the choices the outside
world makes while performing it. -/
structure Event (ε Choice : Type) where
  fate : Fate ε
  choice : Choice

/-- What performing an operation does.  `exec` is `none` where the operation
cannot succeed; only a fallible operation can raise. -/
structure Machine (Op : Type) (Res : Op → Type) (σ Choice : Type) where
  exec : (op : Op) → Choice → σ → Option (Res op × σ)
  fallible : Op → Bool

variable {σ Choice : Type} (M : Machine Op Res σ Choice)

def step : Program Op Res ε α → Event ε Choice → σ → Option (Program Op Res ε α × σ)
  | .call op next, event, s =>
      match event.fate with
      | .done => (M.exec op event.choice s).map fun (a, s') => (next (.ok a), s')
      | .refused e => if M.fallible op then some (next (.error e), s) else none
      | .lost e =>
          if M.fallible op then (M.exec op event.choice s).map fun (_, s') => (next (.error e), s')
          else none
  | _, _, _ => none

def run : List (Event ε Choice) → Program Op Res ε α → σ → Option (Program Op Res ε α × σ)
  | [], p, s => some (p, s)
  | event :: events, p, s =>
      match step M p event s with
      | some (p', s') => run events p' s'
      | none => none

/-- The program is about to perform this operation in this event. -/
def Performs (p : Program Op Res ε α) (event : Event ε Choice) (op : Op) : Prop :=
  (∃ next, p = .call op next) ∧ ∀ e, event.fate ≠ .refused e

theorem run_append (first second : List (Event ε Choice)) (p : Program Op Res ε α) (s : σ) :
    run M (first ++ second) p s = (run M first p s).bind fun (p', s') => run M second p' s' := by
  induction first generalizing p s with
  | nil => rfl
  | cons event first ih =>
      simp only [List.cons_append, run]
      cases step M p event s with
      | none => rfl
      | some next => exact ih next.1 next.2

/-- A program that has raised takes no further event. -/
theorem run_raised {before after : List (Event ε Choice)} {p p' : Program Op Res ε α} {s s' t : σ}
    {e : ε} (raised : run M before p s = some (.raise e, t))
    (ran : run M (before ++ after) p s = some (p', s')) : after = [] := by
  rw [run_append, raised] at ran
  cases after with
  | nil => rfl
  | cons event after => cases ran

/-- A run raises at one place only. -/
theorem raised_unique {before before' after after' : List (Event ε Choice)} {p : Program Op Res ε α}
    {s t t' : σ} {e e' : ε} (raised : run M before p s = some (.raise e, t))
    (raised' : run M before' p s = some (.raise e', t')) (same : before ++ after = before' ++ after') :
    before = before' := by
  rcases List.append_eq_append_iff.1 same with ⟨more, rfl, -⟩ | ⟨more, rfl, -⟩
  · rw [run_raised M raised raised', List.append_nil]
  · rw [run_raised M raised' raised, List.append_nil]

/-- A step answers the operation, whatever the program makes of the answer. -/
theorem step_call {op : Op} {next : Except ε (Res op) → Program Op Res ε α}
    {event : Event ε Choice} {q : Program Op Res ε α} {s t : σ}
    (stepped : step M (.call op next) event s = some (q, t)) :
    ∃ answer, q = next answer ∧ ∀ {β : Type} (next' : Except ε (Res op) → Program Op Res ε β),
      step M (.call op next') event s = some (next' answer, t) := by
  simp only [step] at stepped ⊢
  cases fate : event.fate with
  | done =>
      simp only [fate] at stepped ⊢
      obtain ⟨⟨a, s'⟩, executed, same⟩ := Option.map_eq_some_iff.1 stepped
      cases same
      exact ⟨.ok a, rfl, fun next' => by rw [executed]; rfl⟩
  | refused e =>
      simp only [fate] at stepped ⊢
      obtain ⟨fallible, same⟩ := Option.ite_none_right_eq_some.1 stepped
      cases same
      exact ⟨.error e, rfl, fun next' => by rw [if_pos fallible]⟩
  | lost e =>
      simp only [fate] at stepped ⊢
      obtain ⟨fallible, performed⟩ := Option.ite_none_right_eq_some.1 stepped
      obtain ⟨⟨a, s'⟩, executed, same⟩ := Option.map_eq_some_iff.1 performed
      cases same
      exact ⟨.error e, rfl, fun next' => by rw [if_pos fallible, executed]; rfl⟩

/-- What became of the operation. -/
theorem step_cases {op : Op} {next : Except ε (Res op) → Program Op Res ε α}
    {event : Event ε Choice} {q : Program Op Res ε α} {s t : σ}
    (stepped : step M (.call op next) event s = some (q, t)) :
    (∃ a, event.fate = .done ∧ M.exec op event.choice s = some (a, t) ∧ q = next (.ok a)) ∨
    (∃ e, event.fate = .refused e ∧ t = s ∧ q = next (.error e)) ∨
    ∃ e a, event.fate = .lost e ∧ M.exec op event.choice s = some (a, t) ∧ q = next (.error e) := by
  simp only [step] at stepped
  cases fate : event.fate with
  | done =>
      simp only [fate] at stepped
      obtain ⟨⟨a, s'⟩, executed, same⟩ := Option.map_eq_some_iff.1 stepped
      cases same
      exact .inl ⟨a, rfl, executed, rfl⟩
  | refused e =>
      simp only [fate] at stepped
      obtain ⟨-, same⟩ := Option.ite_none_right_eq_some.1 stepped
      cases same
      exact .inr (.inl ⟨e, rfl, rfl, rfl⟩)
  | lost e =>
      simp only [fate] at stepped
      obtain ⟨-, performed⟩ := Option.ite_none_right_eq_some.1 stepped
      obtain ⟨⟨a, s'⟩, executed, same⟩ := Option.map_eq_some_iff.1 performed
      cases same
      exact .inr (.inr ⟨e, a, rfl, executed, rfl⟩)

/-- Only a fallible operation fails. -/
theorem step_fallible {op : Op} {next : Except ε (Res op) → Program Op Res ε α}
    {event : Event ε Choice} {q : Program Op Res ε α} {s t : σ}
    (stepped : step M (.call op next) event s = some (q, t)) (failed : event.fate ≠ .done) :
    M.fallible op = true := by
  simp only [step] at stepped
  split at stepped
  · rename_i fate
    exact absurd fate failed
  · exact (Option.ite_none_right_eq_some.1 stepped).1
  · exact (Option.ite_none_right_eq_some.1 stepped).1

/-- **How a run of `try` returned**: its body did, or the handler of an exception did. -/
theorem run_catching_cases {events : List (Event ε Choice)} {p : Program Op Res ε α}
    {handler : ε → Option (Program Op Res ε α)} {s s' : σ} {a : α}
    (ran : run M events (p.catching handler) s = some (.ret a, s')) :
    run M events p s = some (.ret a, s') ∨
      ∃ before after e t, events = before ++ after ∧ run M before p s = some (.raise e, t) ∧
        run M after ((handler e).getD (.raise e)) t = some (.ret a, s') := by
  induction events generalizing p s with
  | nil =>
      cases p with
      | ret b => exact .inl ran
      | raise e => exact .inr ⟨[], [], e, s, rfl, rfl, ran⟩
      | call op next => cases ran
  | cons event events ih =>
      cases p with
      | ret b => cases ran
      | raise e => exact .inr ⟨[], event :: events, e, s, rfl, rfl, ran⟩
      | call op next =>
          simp only [catching, run] at ran
          split at ran
          · rename_i q t stepped
            obtain ⟨answer, rfl, steps⟩ := step_call M stepped
            rcases ih ran with returned | ⟨before, after, e, t', rfl, raised, handled⟩
            · left
              simp only [run, steps next, returned]
            · right
              refine ⟨event :: before, after, e, t', rfl, ?_, handled⟩
              simp only [run, steps next, raised]
          · cases ran

/-! ### The operations of a run -/

/-- A step that performs an operation executes it. -/
theorem step_performs {p q : Program Op Res ε α} {event : Event ε Choice} {s t : σ} {o : Op}
    (stepped : step M p event s = some (q, t)) (performed : Performs p event o) :
    ∃ a, M.exec o event.choice s = some (a, t) := by
  obtain ⟨⟨next, rfl⟩, notRefused⟩ := performed
  simp only [step] at stepped
  split at stepped
  · obtain ⟨⟨a, s'⟩, executed, same⟩ := Option.map_eq_some_iff.1 stepped
    cases same
    exact ⟨a, executed⟩
  · rename_i e fate
    exact absurd fate (notRefused e)
  · obtain ⟨-, performed⟩ := Option.ite_none_right_eq_some.1 stepped
    obtain ⟨⟨a, s'⟩, executed, same⟩ := Option.map_eq_some_iff.1 performed
    cases same
    exact ⟨a, executed⟩

/-- A step that performs none changes nothing. -/
theorem step_idle {p q : Program Op Res ε α} {event : Event ε Choice} {s t : σ}
    (stepped : step M p event s = some (q, t)) (idle : ∀ o, ¬ Performs p event o) : t = s := by
  cases p with
  | ret a => cases stepped
  | raise e => cases stepped
  | call o next =>
      by_cases refused : ∃ e, event.fate = .refused e
      · obtain ⟨e, fate⟩ := refused
        simp only [step, fate] at stepped
        obtain ⟨-, same⟩ := Option.ite_none_right_eq_some.1 stepped
        cases same
        rfl
      · exact absurd ⟨⟨next, rfl⟩, fun e fate => refused ⟨e, fate⟩⟩ (idle o)

/-- Some event of the run performs this operation. -/
def RunPerforms (o : Op) : List (Event ε Choice) → Program Op Res ε α → σ → Prop
  | [], _, _ => False
  | event :: events, p, s =>
      Performs p event o ∨ ∃ p' s', step M p event s = some (p', s') ∧ RunPerforms o events p' s'

/-- **A run without the operation** keeps what all others keep. -/
theorem run_keeps {o : Op} {K : σ → Prop}
    (keeps : ∀ o' c s a s', o' ≠ o → M.exec o' c s = some (a, s') → K s → K s')
    {events : List (Event ε Choice)} {p p' : Program Op Res ε α} {s s' : σ}
    (ran : run M events p s = some (p', s')) (never : ¬ RunPerforms M o events p s) (holds : K s) :
    K s' := by
  induction events generalizing p s with
  | nil => cases ran; exact holds
  | cons event events ih =>
      simp only [run] at ran
      split at ran
      · rename_i q t stepped
        refine ih ran (fun later => never (.inr ⟨q, t, stepped, later⟩)) ?_
        by_cases performs : ∃ o', Performs p event o'
        · obtain ⟨o', performed⟩ := performs
          obtain ⟨a, executed⟩ := step_performs M stepped performed
          have other : o' ≠ o := fun same => never (.inl (same ▸ performed))
          exact keeps o' _ s a t other executed holds
        · rw [step_idle M stepped fun o' performed => performs ⟨o', performed⟩]
          exact holds
      · cases ran

/-- The machine that performs only the operations that pass a check. -/
def Machine.restrict (check : Op → σ → Bool) : Machine Op Res σ Choice :=
  ⟨fun op c s => if check op s then M.exec op c s else none, M.fallible⟩

/-- A step of the restricted machine is a step whose operation passes. -/
theorem step_of_restrict {check : Op → σ → Bool} {p p' : Program Op Res ε α}
    {event : Event ε Choice} {s s' : σ}
    (stepped : step (M.restrict check) p event s = some (p', s')) :
    step M p event s = some (p', s') ∧ ∀ op, Performs p event op → check op s = true := by
  cases p with
  | ret a => cases stepped
  | raise e => cases stepped
  | call op next =>
      simp only [step, Machine.restrict] at stepped ⊢
      by_cases passes : check op s = true
      · simp only [passes, if_true] at stepped
        refine ⟨stepped, ?_⟩
        rintro other ⟨⟨next', same⟩, -⟩
        cases same
        exact passes
      · simp only [passes, Bool.false_eq_true, if_false, Option.map_none] at stepped
        split at stepped
        · cases stepped
        · rename_i e fate
          refine ⟨stepped, ?_⟩
          rintro other ⟨-, performed⟩
          exact absurd fate (performed e)
        · split at stepped <;> cases stepped

/-- The result of a finished program. -/
def finished : Except ε α → Program Op Res ε α
  | .ok a => .ret a
  | .error e => .raise e

/-- Run a program to its end, the policy deciding every operation. -/
def perform (policy : (op : Op) → σ → Event ε Choice) :
    Program Op Res ε α → σ → Option (Except ε α × σ)
  | .ret a, s => some (.ok a, s)
  | .raise e, s => some (.error e, s)
  | .call op next, s =>
      match (policy op s).fate with
      | .done =>
          match M.exec op (policy op s).choice s with
          | some (a, s') => perform policy (next (.ok a)) s'
          | none => none
      | .refused e => if M.fallible op then perform policy (next (.error e)) s else none
      | .lost e =>
          if M.fallible op then
            match M.exec op (policy op s).choice s with
            | some (_, s') => perform policy (next (.error e)) s'
            | none => none
          else none

section Perform

variable (policy : (op : Op) → σ → Event ε Choice)

@[simp] theorem perform_ret (a : α) (s : σ) :
    perform M policy (ret a : Program Op Res ε α) s = some (.ok a, s) := rfl
@[simp] theorem perform_raise (e : ε) (s : σ) :
    perform M policy (raise e : Program Op Res ε α) s = some (.error e, s) := rfl

/-- An operation that is performed and answered. -/
theorem perform_done {o : Op} {s : σ} (fate : (policy o s).fate = .done)
    (f : Res o → Program Op Res ε α) :
    perform M policy ((ask o).bind f) s =
      (M.exec o (policy o s).choice s).bind fun (a, s') => perform M policy (f a) s' := by
  simp only [ask, bind, perform, fate]
  cases M.exec o (policy o s).choice s <;> rfl

/-- An operation whose answer is known. -/
theorem perform_answer {o : Op} {s s' : σ} {a : Res o} (fate : (policy o s).fate = .done)
    (executed : M.exec o (policy o s).choice s = some (a, s')) (f : Res o → Program Op Res ε α) :
    perform M policy ((ask o).bind f) s = perform M policy (f a) s' := by
  rw [perform_done M policy fate, executed]
  rfl

/-- An operation that is refused. -/
theorem perform_refused {o : Op} {s : σ} {e : ε} (fate : (policy o s).fate = .refused e)
    (fallible : M.fallible o = true) (f : Res o → Program Op Res ε α) :
    perform M policy ((ask o).bind f) s = some (.error e, s) := by
  simp only [ask, bind, perform, fate, fallible, if_true]

/-- An operation whose answer is lost. -/
theorem perform_lost {o : Op} {s : σ} {e : ε} (fate : (policy o s).fate = .lost e)
    (fallible : M.fallible o = true) (f : Res o → Program Op Res ε α) :
    perform M policy ((ask o).bind f) s =
      (M.exec o (policy o s).choice s).map fun (_, s') => (.error e, s') := by
  simp only [ask, bind, perform, fate, fallible, if_true]
  cases M.exec o (policy o s).choice s <;> rfl

/-- **Sequencing**: the second program starts where the first returned. -/
theorem perform_bind (p : Program Op Res ε α) (f : α → Program Op Res ε β) (s : σ) :
    perform M policy (p.bind f) s =
      (perform M policy p s).bind fun
        | (.ok a, s') => perform M policy (f a) s'
        | (.error e, s') => some (.error e, s') := by
  induction p generalizing s with
  | ret a => rfl
  | raise e => rfl
  | call op next ih =>
      simp only [bind, perform]
      split
      · cases M.exec op (policy op s).choice s with
        | none => rfl
        | some pair => exact ih _ _
      · split
        · exact ih _ _
        · rfl
      · split
        · cases M.exec op (policy op s).choice s with
          | none => rfl
          | some pair => exact ih _ _
        · rfl

/-- **Catching**: a handler sees the exception and the world it was raised in. -/
theorem perform_catching (p : Program Op Res ε α) (handler : ε → Option (Program Op Res ε α))
    (s : σ) :
    perform M policy (p.catching handler) s =
      (perform M policy p s).bind fun
        | (.ok a, s') => some (.ok a, s')
        | (.error e, s') => perform M policy ((handler e).getD (.raise e)) s' := by
  induction p generalizing s with
  | ret a => rfl
  | raise e => rfl
  | call op next ih =>
      simp only [catching, perform]
      split
      · cases M.exec op (policy op s).choice s with
        | none => rfl
        | some pair => exact ih _ _
      · split
        · exact ih _ _
        · rfl
      · split
        · cases M.exec op (policy op s).choice s with
          | none => rfl
          | some pair => exact ih _ _
        · rfl

section Continue

variable {M policy}

theorem perform_bind_ok {p : Program Op Res ε α} {s t : σ} {a : α}
    (first : perform M policy p s = some (.ok a, t)) (f : α → Program Op Res ε β) :
    perform M policy (p.bind f) s = perform M policy (f a) t := by
  rw [perform_bind, first]
  rfl

theorem perform_bind_error {p : Program Op Res ε α} {s t : σ} {e : ε}
    (first : perform M policy p s = some (.error e, t)) (f : α → Program Op Res ε β) :
    perform M policy (p.bind f) s = some (.error e, t) := by
  rw [perform_bind, first]
  rfl

theorem perform_catching_ok {p : Program Op Res ε α} {s t : σ} {a : α}
    (first : perform M policy p s = some (.ok a, t))
    (handler : ε → Option (Program Op Res ε α)) :
    perform M policy (p.catching handler) s = some (.ok a, t) := by
  rw [perform_catching, first]
  rfl

theorem perform_catching_error {p : Program Op Res ε α} {s t : σ} {e : ε}
    (first : perform M policy p s = some (.error e, t))
    (handler : ε → Option (Program Op Res ε α)) :
    perform M policy (p.catching handler) s =
      perform M policy ((handler e).getD (.raise e)) t := by
  rw [perform_catching, first]
  rfl

/-- How a sequence can have ended. -/
theorem perform_bind_cases {p : Program Op Res ε α} {f : α → Program Op Res ε β} {s s' : σ}
    {result : Except ε β} (performed : perform M policy (p.bind f) s = some (result, s')) :
    (∃ a t, perform M policy p s = some (.ok a, t) ∧
      perform M policy (f a) t = some (result, s')) ∨
    ∃ e, perform M policy p s = some (.error e, s') ∧ result = .error e := by
  rw [perform_bind] at performed
  obtain ⟨⟨first, t⟩, ran, rest⟩ := Option.bind_eq_some_iff.1 performed
  cases first with
  | ok a => exact .inl ⟨a, t, ran, rest⟩
  | error e =>
      cases rest
      exact .inr ⟨e, ran, rfl⟩

end Continue

/-- What a policy performs is a run. -/
theorem run_of_perform {p : Program Op Res ε α} {s s' : σ} {result : Except ε α}
    (performed : perform M policy p s = some (result, s')) :
    ∃ events, run M events p s = some (finished result, s') := by
  induction p generalizing s with
  | ret a => cases performed; exact ⟨[], rfl⟩
  | raise e => cases performed; exact ⟨[], rfl⟩
  | call op next ih =>
      have continues : ∀ (answer : Except ε (Res op)) {t : σ},
          step M (.call op next) (policy op s) s = some (next answer, t) →
          perform M policy (next answer) t = some (result, s') →
          ∃ events, run M events (.call op next) s = some (finished result, s') := by
        intro answer t stepped rest
        obtain ⟨events, ran⟩ := ih answer rest
        exact ⟨policy op s :: events, by simp only [run, stepped, ran]⟩
      simp only [perform] at performed
      split at performed
      · rename_i fate
        split at performed
        · rename_i a t executed
          exact continues (.ok a) (by simp [step, fate, executed]) performed
        · cases performed
      · rename_i e fate
        split at performed
        · rename_i fallible
          exact continues (.error e) (by simp [step, fate, fallible]) performed
        · cases performed
      · rename_i e fate
        split at performed
        · rename_i fallible
          split at performed
          · rename_i a t executed
            exact continues (.error e) (by simp [step, fate, fallible, executed])
              performed
          · cases performed
        · cases performed

/-- **The footprint of a program** bounds what it changes: a fact that its operations
keep holds where it ends. -/
theorem perform_keeps {uses : Op → Prop} {K : σ → Prop}
    (keeps : ∀ op c s a s', uses op → M.exec op c s = some (a, s') → K s → K s')
    {p : Program Op Res ε α} (only : p.Uses uses) {s s' : σ} {result : Except ε α}
    (performed : perform M policy p s = some (result, s')) (holds : K s) : K s' := by
  induction p generalizing s with
  | ret a => cases performed; exact holds
  | raise e => cases performed; exact holds
  | call op next ih =>
      obtain ⟨used, rest⟩ := only
      simp only [perform] at performed
      split at performed
      · split at performed
        · rename_i a t executed
          exact ih (.ok a) (rest _) performed (keeps op _ s a t used executed holds)
        · cases performed
      · rename_i e _
        split at performed
        · exact ih (.error e) (rest _) performed holds
        · cases performed
      · rename_i e _
        split at performed
        · split at performed
          · rename_i a t executed
            exact ih (.error e) (rest _) performed (keeps op _ s a t used executed holds)
          · cases performed
        · cases performed

/-- A value that a policy computes comes with the world it leaves. -/
theorem perform_returned {p : Program Op Res ε α} {s : σ} {a : α}
    (value : (perform M policy p s).bind (fun result => result.1.toOption) = some a) :
    ∃ s', perform M policy p s = some (.ok a, s') := by
  obtain ⟨⟨result, s'⟩, performed, same⟩ := Option.bind_eq_some_iff.1 value
  cases result with
  | error e => cases same
  | ok b =>
      cases same
      exact ⟨s', performed⟩

end Perform

end Program

end KubeRayBatch.Theory
