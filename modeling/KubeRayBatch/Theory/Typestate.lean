/-
# Theory.Typestate -- programs that keep a note of where they stand

A `Protocol` is an automaton for one process: in each note it says which operations may be
asked for, what an answer may be and which note it leads to, and whether an operation may
fail before or after it is performed.  `Follows p n Q X` checks a program against it, from
the note `n`: `Q` holds of the notes in which it may return, `X` of those in which it may
raise.  The notes are not part of the state; what they mean for it is left to the user.

The rules (`weaken`, `bind`, `catching`, `forEach`, `neutral`) compose such checks, and
`step` follows a program through an event of a run.
-/
import KubeRayBatch.Theory.Program

namespace KubeRayBatch.Theory

set_option autoImplicit false

open Program

structure Protocol (Op : Type) (Res : Op → Type) (Note : Type) where
  /-- The operation may be asked for. -/
  asks : Op → Note → Prop
  /-- It may be performed, with this answer, and lead to this note. -/
  done : (op : Op) → Note → Res op → Note → Prop
  /-- It may fail without being performed. -/
  refused : Op → Note → Prop
  /-- It may be performed and lead to this note, with the answer lost. -/
  lost : Op → Note → Note → Prop

namespace Protocol

variable {Op : Type} {Res : Op → Type} {Note ε α β : Type} (T : Protocol Op Res Note)

def Follows : Program Op Res ε α → Note → (α → Note → Prop) → (ε → Note → Prop) → Prop
  | .ret a, n, Q, _ => Q a n
  | .raise e, n, _, X => X e n
  | .call op next, n, Q, X => T.asks op n ∧
      (∀ a n', T.done op n a n' → Follows (next (.ok a)) n' Q X) ∧
      (T.refused op n → ∀ e, Follows (next (.error e)) n Q X) ∧
      ∀ n', T.lost op n n' → ∀ e, Follows (next (.error e)) n' Q X

/-- An operation that leaves the note as it is. -/
structure Neutral (op : Op) (n : Note) : Prop where
  asks : T.asks op n
  done : ∀ a n', T.done op n a n' → n' = n
  lost : ∀ n', T.lost op n n' → n' = n

variable {T}

namespace Follows

variable {Q Q' : α → Note → Prop} {X X' : ε → Note → Prop} {n : Note}

theorem weaken {p : Program Op Res ε α} (follows : T.Follows p n Q X)
    (post : ∀ a n, Q a n → Q' a n) (failed : ∀ e n, X e n → X' e n) : T.Follows p n Q' X' := by
  induction p generalizing n with
  | ret a => exact post a n follows
  | raise e => exact failed e n follows
  | call op next ih =>
      obtain ⟨asks, done, refused, lost⟩ := follows
      exact ⟨asks, fun a n' answered => ih _ (done a n' answered),
        fun may e => ih _ (refused may e), fun n' after e => ih _ (lost n' after e)⟩

theorem bind {p : Program Op Res ε β} {f : β → Program Op Res ε α} {R : β → Note → Prop}
    (first : T.Follows p n R X) (rest : ∀ b n, R b n → T.Follows (f b) n Q X) :
    T.Follows (p.bind f) n Q X := by
  induction p generalizing n with
  | ret b => exact rest b n first
  | raise e => exact first
  | call op next ih =>
      obtain ⟨asks, done, refused, lost⟩ := first
      exact ⟨asks, fun a n' answered => ih _ (done a n' answered),
        fun may e => ih _ (refused may e), fun n' after e => ih _ (lost n' after e)⟩

theorem catching {p : Program Op Res ε α} {handler : ε → Option (Program Op Res ε α)}
    {Y : ε → Note → Prop} (first : T.Follows p n Q Y)
    (handled : ∀ e n, Y e n → T.Follows ((handler e).getD (.raise e)) n Q X) :
    T.Follows (p.catching handler) n Q X := by
  induction p generalizing n with
  | ret a => exact first
  | raise e => exact handled e n first
  | call op next ih =>
      obtain ⟨asks, done, refused, lost⟩ := first
      exact ⟨asks, fun a n' answered => ih _ (done a n' answered),
        fun may e => ih _ (refused may e), fun n' after e => ih _ (lost n' after e)⟩

theorem forEach {body : β → Program Op Res ε Unit} {I : List β → Note → Prop}
    (each : ∀ x rest n, I (x :: rest) n → T.Follows (body x) n (fun _ => I rest) X) :
    ∀ (xs : List β) (n : Note), I xs n → T.Follows (Program.forEach xs body) n (fun _ => I []) X
  | [], _, holds => holds
  | x :: xs, n, holds => (each x xs n holds).bind fun _ n' holds' => forEach each xs n' holds'

/-- A program of neutral operations. -/
theorem neutral {p : Program Op Res ε α} (uses : p.Uses fun op => T.Neutral op n)
    (post : ∀ a, Q a n) (failed : ∀ e, X e n) : T.Follows p n Q X := by
  induction p with
  | ret a => exact post a
  | raise e => exact failed e
  | call op next ih =>
      obtain ⟨idle, rest⟩ := uses
      refine ⟨idle.asks, fun a n' answered => ?_, fun _ e => ih _ (rest _), fun n' after e => ?_⟩
      · rw [idle.done a n' answered]
        exact ih _ (rest _)
      · rw [idle.lost n' after]
        exact ih _ (rest _)

/-- **One event** leads to another note, which means of the new state what it should: `R` is
what the notes mean, and the hypotheses are about the operation that is asked for. -/
theorem step {σ Choice : Type} {M : Machine Op Res σ Choice} {R : Note → σ → Prop}
    {p p' : Program Op Res ε α} {event : Event ε Choice} {s s' : σ} (follows : T.Follows p n Q X)
    (stepped : Program.step M p event s = some (p', s')) (holds : R n s)
    (done : ∀ op next a, p = .call op next → event.fate = .done → T.asks op n →
      M.exec op event.choice s = some (a, s') → ∃ n', T.done op n a n' ∧ R n' s')
    (refused : ∀ op next e, p = .call op next → event.fate = .refused e → T.asks op n →
      M.fallible op = true → T.refused op n)
    (lost : ∀ op next a e, p = .call op next → event.fate = .lost e → T.asks op n →
      M.fallible op = true → M.exec op event.choice s = some (a, s') →
      ∃ n', T.lost op n n' ∧ R n' s') :
    ∃ n', T.Follows p' n' Q X ∧ R n' s' := by
  cases p with
  | ret a => cases stepped
  | raise e => cases stepped
  | call op next =>
      obtain ⟨asks, whenDone, whenRefused, whenLost⟩ := follows
      rcases step_cases M stepped with
        ⟨a, fate, executed, rfl⟩ | ⟨e, fate, rfl, rfl⟩ | ⟨e, a, fate, executed, rfl⟩
      · obtain ⟨n', answered, meant⟩ := done op next a rfl fate asks executed
        exact ⟨n', whenDone a n' answered, meant⟩
      · have fallible : M.fallible op = true :=
          step_fallible M stepped fun done => nomatch fate.symm.trans done
        exact ⟨n, whenRefused (refused op next e rfl fate asks fallible) e, holds⟩
      · have fallible : M.fallible op = true :=
          step_fallible M stepped fun done => nomatch fate.symm.trans done
        obtain ⟨n', after, meant⟩ := lost op next a e rfl fate asks fallible executed
        exact ⟨n', whenLost n' after e, meant⟩

theorem ask {op : Op} {Q : Res op → Note → Prop} (asks : T.asks op n)
    (done : ∀ a n', T.done op n a n' → Q a n') (refused : T.refused op n → ∀ e, X e n)
    (lost : ∀ n', T.lost op n n' → ∀ e, X e n') :
    T.Follows (Program.ask op : Program Op Res ε (Res op)) n Q X :=
  ⟨asks, done, refused, lost⟩

theorem ask_neutral {op : Op} {Q : Res op → Note → Prop} (idle : T.Neutral op n)
    (post : ∀ a, Q a n) (failed : ∀ e, X e n) :
    T.Follows (Program.ask op : Program Op Res ε (Res op)) n Q X :=
  neutral (.ask idle) post failed

end Follows

end Protocol

end KubeRayBatch.Theory
