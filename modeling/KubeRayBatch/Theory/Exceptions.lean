/-
# Theory.Exceptions -- the terms of a program, and the exceptions it lets through

`Obeys T Q F p` says: `p` asks only for what the terms `T` let it ask, and as long as it is
answered as they promise, it returns in `Q` and raises in `F`.  The terms know nothing of the
world, so such a specification is checked along the program alone.

`Raises fallible E F p` is the case of exceptions: if fallible operations are answered by
exceptions of `E`, then `p` raises exceptions of `F` only.  `Stops e p` says that `p` does not
treat `e` at all: wherever an operation is answered by it, `p` raises it at once and asks for
nothing more.

* `Obeys.bind`, `Obeys.catching`, `Obeys.forEach`: specifications compose;
* `Obeys.step`: they hold along runs, so what a run raises is in `F`;
* `Stops.step`, `Stops.thrown`: a run ends with the first operation that is answered by `e`;
* `Stops.expect`: so `e` may be added to what a program is answered and raises;
* `Outline.ensuring`: the outline of `try ... finally`.
-/
import KubeRayBatch.Theory.Contract

namespace KubeRayBatch.Theory

set_option autoImplicit false

namespace Program

variable {Op : Type} {Res : Op → Type} {ε α β : Type}

/-! ## Terms -/

/-- What a program may ask, and how it is answered. -/
structure Terms (Op : Type) (Res : Op → Type) (ε : Type) where
  asks : Op → Prop
  answers : (op : Op) → Res op → Prop
  fails : Op → ε → Prop

/-- On these terms the program returns in `Q` and raises in `F`. -/
def Obeys (T : Terms Op Res ε) (Q : α → Prop) (F : ε → Prop) : Program Op Res ε α → Prop
  | .ret a => Q a
  | .raise e => F e
  | .call op next => T.asks op ∧ (∀ a, T.answers op a → Obeys T Q F (next (.ok a))) ∧
      ∀ e, T.fails op e → Obeys T Q F (next (.error e))

namespace Obeys

variable {T T' : Terms Op Res ε} {Q Q' : α → Prop} {F F' : ε → Prop}

/-- Less is promised of the program, and more to it. -/
theorem weaken {p : Program Op Res ε α} (obeys : p.Obeys T Q F) (asks : ∀ op, T.asks op → T'.asks op)
    (answers : ∀ op a, T'.answers op a → T.answers op a) (fails : ∀ op e, T'.fails op e → T.fails op e)
    (returns : ∀ a, Q a → Q' a) (raises : ∀ e, F e → F' e) : p.Obeys T' Q' F' := by
  induction p with
  | ret a => exact returns a obeys
  | raise e => exact raises e obeys
  | call op next ih =>
      obtain ⟨asked, done, failed⟩ := obeys
      refine ⟨asks op asked, fun a answered => ?_, fun e broken => ?_⟩
      · exact ih (.ok a) (done a (answers op a answered))
      · exact ih (.error e) (failed e (fails op e broken))

theorem mono {p : Program Op Res ε α} (obeys : p.Obeys T Q F) (returns : ∀ a, Q a → Q' a)
    (raises : ∀ e, F e → F' e) : p.Obeys T Q' F' :=
  obeys.weaken (fun _ asked => asked) (fun _ _ answered => answered) (fun _ _ failed => failed)
    returns raises

theorem ask {op : Op} {Q : Res op → Prop} (asks : T.asks op) (answered : ∀ a, T.answers op a → Q a)
    (failed : ∀ e, T.fails op e → F e) :
    (Program.ask op : Program Op Res ε (Res op)).Obeys T Q F := ⟨asks, answered, failed⟩

theorem bind {R : β → Prop} {p : Program Op Res ε β} {f : β → Program Op Res ε α}
    (first : p.Obeys T R F) (rest : ∀ b, R b → (f b).Obeys T Q F) : (p.bind f).Obeys T Q F := by
  induction p with
  | ret b => exact rest b first
  | raise e => exact first
  | call op next ih =>
      obtain ⟨asked, done, failed⟩ := first
      refine ⟨asked, fun a answered => ?_, fun e broken => ?_⟩
      · exact ih (.ok a) (done a answered)
      · exact ih (.error e) (failed e broken)

/-- What the body raises is handled, or passed on. -/
theorem catching {p : Program Op Res ε α} {handler : ε → Option (Program Op Res ε α)}
    (body : p.Obeys T Q F) (handled : ∀ e, F e → ((handler e).getD (.raise e)).Obeys T Q F') :
    (p.catching handler).Obeys T Q F' := by
  induction p with
  | ret a => exact body
  | raise e => exact handled e body
  | call op next ih =>
      obtain ⟨asked, done, failed⟩ := body
      refine ⟨asked, fun a answered => ?_, fun e broken => ?_⟩
      · exact ih (.ok a) (done a answered)
      · exact ih (.error e) (failed e broken)

theorem forEach {body : β → Program Op Res ε Unit} {Q : Unit → Prop} {xs : List β} (holds : Q ())
    (each : ∀ x ∈ xs, (body x).Obeys T Q F) : (Program.forEach xs body).Obeys T Q F := by
  induction xs with
  | nil => exact holds
  | cons x xs ih =>
      refine bind (each x List.mem_cons_self) fun _ _ => ih fun y mem => ?_
      exact each y (List.mem_cons_of_mem x mem)

/-- A program that may ask for what it asks for. -/
theorem of_uses {uses : Op → Prop} {p : Program Op Res ε α} (only : p.Uses uses)
    (asks : ∀ op, uses op → T.asks op) : p.Obeys T (fun _ => True) fun _ => True := by
  induction p with
  | ret a => trivial
  | raise e => trivial
  | call op next ih =>
      exact ⟨asks op only.1, fun a _ => ih _ (only.2 _), fun e _ => ih _ (only.2 _)⟩

end Obeys

/-! ## Exception specifications -/

/-- Any operation is asked for, and a fallible one may be answered by an exception of `E`. -/
def faults (fallible : Op → Bool) (E : ε → Prop) : Terms Op Res ε where
  asks := fun _ => True
  answers := fun _ _ => True
  fails := fun op e => fallible op = true ∧ E e

/-- Answered by exceptions of `E`, the program raises exceptions of `F`. -/
def Raises (fallible : Op → Bool) (E F : ε → Prop) (p : Program Op Res ε α) : Prop :=
  p.Obeys (faults fallible E) (fun _ => True) F

namespace Raises

variable {fallible : Op → Bool} {E F G : ε → Prop}

theorem mono {p : Program Op Res ε α} (raises : p.Raises fallible E F) (more : ∀ e, F e → G e) :
    p.Raises fallible E G := Obeys.mono raises (fun _ _ => trivial) more

theorem ask {op : Op} (may : fallible op = true → ∀ e, E e → F e) :
    (Program.ask op : Program Op Res ε (Res op)).Raises fallible E F :=
  Obeys.ask trivial (fun _ _ => trivial) fun e failed => may failed.1 e failed.2

theorem bind {p : Program Op Res ε β} {f : β → Program Op Res ε α} (first : p.Raises fallible E F)
    (rest : ∀ b, (f b).Raises fallible E F) : (p.bind f).Raises fallible E F :=
  Obeys.bind first fun b _ => rest b

theorem catching {p : Program Op Res ε α} {handler : ε → Option (Program Op Res ε α)}
    (body : p.Raises fallible E F)
    (handled : ∀ e, F e → ((handler e).getD (.raise e)).Raises fallible E G) :
    (p.catching handler).Raises fallible E G := Obeys.catching body handled

theorem forEach {body : β → Program Op Res ε Unit} (each : ∀ x, (body x).Raises fallible E F)
    (xs : List β) : (Program.forEach xs body).Raises fallible E F :=
  Obeys.forEach trivial fun x _ => each x

end Raises

/-- The exception that an event brings, if it brings one. -/
def Event.thrown {Choice : Type} (event : Event ε Choice) : Option ε :=
  match event.fate with
  | .done => none
  | .refused e | .lost e => some e

/-! ## Exceptions that are not treated -/

/-- Wherever an operation is answered by `e`, the program raises it at once. -/
def Stops (e : ε) : Program Op Res ε α → Prop
  | .ret _ | .raise _ => True
  | .call _ next => next (.error e) = .raise e ∧ ∀ answer, Stops e (next answer)

namespace Stops

variable {e : ε}

theorem ask (op : Op) : (Program.ask op : Program Op Res ε (Res op)).Stops e := by
  refine ⟨rfl, fun answer => ?_⟩
  cases answer <;> trivial

theorem bind {p : Program Op Res ε β} {f : β → Program Op Res ε α} (first : p.Stops e)
    (rest : ∀ b, (f b).Stops e) : (p.bind f).Stops e := by
  induction p with
  | ret b => exact rest b
  | raise e' => trivial
  | call op next ih =>
      refine ⟨?_, fun answer => ih answer (first.2 answer)⟩
      show (next (.error e)).bind f = .raise e
      rw [first.1]
      rfl

/-- A handler that does not catch `e`. -/
theorem catching {p : Program Op Res ε α} {handler : ε → Option (Program Op Res ε α)}
    (body : p.Stops e) (uncaught : handler e = none)
    (handled : ∀ e', ((handler e').getD (.raise e')).Stops e) : (p.catching handler).Stops e := by
  induction p with
  | ret a => trivial
  | raise e' => exact handled e'
  | call op next ih =>
      refine ⟨?_, fun answer => ih answer (body.2 answer)⟩
      show (next (.error e)).catching handler = .raise e
      rw [body.1]
      show (handler e).getD (.raise e) = .raise e
      rw [uncaught]
      rfl

theorem forEach {body : β → Program Op Res ε Unit} (each : ∀ x, (body x).Stops e) (xs : List β) :
    (Program.forEach xs body).Stops e := by
  induction xs with
  | nil => trivial
  | cons x xs ih => exact bind (each x) fun _ => ih

/-- An exception that is not treated may be added to those that a program is answered and
raises. -/
theorem expect {T : Terms Op Res ε} {Q : α → Prop} {F : ε → Prop} {p : Program Op Res ε α}
    (stops : p.Stops e) (obeys : p.Obeys T Q F) :
    p.Obeys { T with fails := fun op e' => T.fails op e' ∨ e' = e } Q fun e' => F e' ∨ e' = e := by
  induction p with
  | ret a => exact obeys
  | raise e' => exact .inl obeys
  | call op next ih =>
      obtain ⟨asked, done, failed⟩ := obeys
      refine ⟨asked, fun a answered => ih _ (stops.2 _) (done a answered), ?_⟩
      rintro e' (expected | rfl)
      · exact ih _ (stops.2 _) (failed e' expected)
      · rw [stops.1]
        exact .inr rfl

end Stops

/-! ## Along a run -/

section Steps

variable {σ Choice : Type} {M : Machine Op Res σ Choice} {p p' : Program Op Res ε α}
variable {event : Event ε Choice} {s s' : σ}

/-- **A step** on these terms keeps them. -/
theorem Obeys.step {T : Terms Op Res ε} {Q : α → Prop} {F : ε → Prop} (obeys : p.Obeys T Q F)
    (answered : ∀ op next a, p = .call op next → T.asks op →
      M.exec op event.choice s = some (a, s') → T.answers op a)
    (failed : ∀ op e, M.fallible op = true → event.thrown = some e → T.fails op e)
    (stepped : Program.step M p event s = some (p', s')) : p'.Obeys T Q F := by
  cases p with
  | ret a => cases stepped
  | raise e => cases stepped
  | call op next =>
      obtain ⟨asked, done, broken⟩ := obeys
      have fallible : event.fate ≠ .done → M.fallible op = true := step_fallible M stepped
      rcases step_cases M stepped with
        ⟨a, -, executed, rfl⟩ | ⟨e, fate, -, rfl⟩ | ⟨e, a, fate, -, rfl⟩
      · exact done a (answered op next a rfl asked executed)
      · refine broken e (failed op e (fallible (by simp [fate])) ?_)
        rw [Event.thrown, fate]
      · refine broken e (failed op e (fallible (by simp [fate])) ?_)
        rw [Event.thrown, fate]

/-- Asking only for operations that leave the world alone, a program leaves it alone. -/
theorem Obeys.still {T : Terms Op Res ε} {Q : α → Prop} {F : ε → Prop} (obeys : p.Obeys T Q F)
    (idle : ∀ op a t, T.asks op → M.exec op event.choice s = some (a, t) → t = s)
    (stepped : Program.step M p event s = some (p', s')) : s' = s := by
  cases p with
  | ret a => cases stepped
  | raise e => cases stepped
  | call op next =>
      rcases step_cases M stepped with
        ⟨a, -, executed, -⟩ | ⟨e, -, same, -⟩ | ⟨e, a, -, executed, -⟩
      · exact idle op a s' obeys.1 executed
      · exact same
      · exact idle op a s' obeys.1 executed

theorem Raises.step {E F : ε → Prop} (raises : p.Raises M.fallible E F)
    (expected : ∀ e, event.thrown = some e → E e)
    (stepped : Program.step M p event s = some (p', s')) : p'.Raises M.fallible E F :=
  Obeys.step raises (fun _ _ _ _ _ _ => trivial) (fun _ e may thrown => ⟨may, expected e thrown⟩) stepped

theorem Stops.step {e : ε} (stops : p.Stops e) (stepped : Program.step M p event s = some (p', s')) :
    p'.Stops e := by
  cases p with
  | ret a => cases stepped
  | raise e' => cases stepped
  | call op next =>
      obtain ⟨answer, rfl, -⟩ := step_call M stepped
      exact stops.2 answer

/-- **The first operation** that is answered by `e` is the last one of the program. -/
theorem Stops.thrown {e : ε} (stops : p.Stops e) (brings : event.thrown = some e)
    (stepped : Program.step M p event s = some (p', s')) : p' = .raise e := by
  cases p with
  | ret a => cases stepped
  | raise e' => cases stepped
  | call op next =>
      unfold Event.thrown at brings
      rcases step_cases M stepped with
        ⟨a, fate, -⟩ | ⟨e', fate, -, rfl⟩ | ⟨e', a, fate, -, rfl⟩
      · simp [fate] at brings
      · simp only [fate, Option.some.injEq] at brings
        rw [brings]
        exact stops.1
      · simp only [fate, Option.some.injEq] at brings
        rw [brings]
        exact stops.1

end Steps

/-! ## `finally` -/

/-- How the program ends, as a value. -/
def attempt (p : Program Op Res ε α) : Program Op Res ε (Except ε α) :=
  (p.bind fun a => .ret (.ok a)).catching fun e => some (.ret (.error e))

/-- `try p finally cleanup`: an exception of the clean-up replaces the one of `p`. -/
def ensuring (p : Program Op Res ε α) (cleanup : Program Op Res ε Unit) : Program Op Res ε α :=
  p.attempt.bind fun result => cleanup.bind fun _ =>
    match result with
    | .ok a => .ret a
    | .error e => .raise e

end Program

namespace Contract

open Program

variable {Op : Type} {Res : Op → Type} {ε α σ Choice : Type}
variable {M : Machine Op Res σ Choice} {C : Contract Op σ}
variable {P : σ → Prop} {Q Q' : α → σ → Prop} {X X' Y : ε → σ → Prop}

/-- What is known where the program has ended, either way. -/
def Ended (Q : α → σ → Prop) (X : ε → σ → Prop) : Except ε α → σ → Prop
  | .ok a => Q a
  | .error e => X e

theorem stable_ended (returned : ∀ a, C.Stable (Q a)) (raised : ∀ e, C.Stable (X e))
    (result : Except ε α) : C.Stable (Ended Q X result) := by
  cases result with
  | ok a => exact returned a
  | error e => exact raised e

namespace Outline

theorem attempt {p : Program Op Res ε α} (body : Outline M C p P Q X) :
    Outline M C p.attempt P (Ended Q X) Y := by
  refine catching (Y := X) (bind body fun a => ret fun _ _ holds => holds) fun e => ?_
  exact ret fun _ _ holds => holds

/-- **The rule for `finally`**: the clean-up runs from either end of the body. -/
theorem ensuring {p : Program Op Res ε α} {cleanup : Program Op Res ε Unit}
    (body : Outline M C p P Q X) (done : ∀ a, Outline M C cleanup (Q a) (fun _ => Q' a) X')
    (failed : ∀ e, Outline M C cleanup (X e) (fun _ => X' e) X') :
    Outline M C (Program.ensuring p cleanup) P Q' X' := by
  refine bind (attempt body) fun result => ?_
  cases result with
  | ok a => exact bind (done a) fun _ => ret fun _ _ holds => holds
  | error e => exact bind (failed e) fun _ => raise fun _ _ holds => holds

end Outline

end Contract

end KubeRayBatch.Theory
