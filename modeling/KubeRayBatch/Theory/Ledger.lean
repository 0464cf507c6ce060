/-
# Theory.Ledger -- what a service of asynchronous requests is for

A ledger has an entry for each request that was accepted: the request, and how far it is.  A
request waits, runs, and ends: it is answered, it fails for some reason, or it is cancelled.
Which answers are right, and which reasons are told, are parameters; so are the types.

Nothing is ever taken out of a ledger, and no entry goes back.

* `Entry.Leads`: what an entry may become; it is a preorder;
* `keeps_entry`: an entry stays, with its request, and what is over is over;
* `right_answers`: every answer in a reachable ledger is right, and every reason is told.
-/
import KubeRayBatch.Theory.Simulation
import Mathlib.Logic.Function.Basic

namespace KubeRayBatch.Theory.Ledger

set_option autoImplicit false

universe u v w x

variable {Id : Type u} {Req : Type v} {Ans : Type w} {Why : Type x}

/-! ## Entries -/

/-- How far a request is. -/
inductive Phase (Ans : Type w) (Why : Type x) where
  | waiting
  | running
  | answered (answer : Ans)
  | failed (why : Why)
  | cancelled

namespace Phase

/-- Nothing happens any more. -/
def Over : Phase Ans Why → Prop
  | .waiting | .running => False
  | _ => True

def stage : Phase Ans Why → Nat
  | .waiting => 0
  | .running => 1
  | _ => 2

/-- What may come next, if `right` answers are given and `told` reasons. -/
inductive Next (right : Ans → Prop) (told : Why → Prop) : Phase Ans Why → Phase Ans Why → Prop where
  | start : Next right told .waiting .running
  | answer {phase : Phase Ans Why} {answer : Ans} (going_on : ¬phase.Over) (isRight : right answer) :
      Next right told phase (.answered answer)
  | fail {phase : Phase Ans Why} {why : Why} (going_on : ¬phase.Over) (isTold : told why) :
      Next right told phase (.failed why)
  | cancel {phase : Phase Ans Why} (going_on : ¬phase.Over) : Next right told phase .cancelled

variable {right : Ans → Prop} {told : Why → Prop} {phase phase' : Phase Ans Why}

theorem Next.going_on (next : phase.Next right told phase') : ¬phase.Over := by
  cases next with
  | start => exact id
  | answer going_on | fail going_on | cancel going_on => exact going_on

theorem Next.stage (next : phase.Next right told phase') : phase.stage < phase'.stage := by
  cases next with
  | start => exact Nat.zero_lt_one
  | answer going_on | fail going_on | cancel going_on =>
      cases phase with
      | waiting => exact Nat.zero_lt_two
      | running => exact Nat.one_lt_two
      | answered | failed | cancelled => exact absurd trivial going_on

end Phase

structure Entry (Req : Type v) (Ans : Type w) (Why : Type x) where
  request : Req
  phase : Phase Ans Why

/-- The second entry may be found where the first one was. -/
structure Entry.Leads (entry entry' : Entry Req Ans Why) : Prop where
  request : entry'.request = entry.request
  stage : entry.phase.stage ≤ entry'.phase.stage
  ended : entry.phase.Over → entry' = entry

theorem Entry.Leads.refl (entry : Entry Req Ans Why) : entry.Leads entry :=
  ⟨rfl, Nat.le_refl _, fun _ => rfl⟩

theorem Entry.Leads.trans {a b c : Entry Req Ans Why} (first : a.Leads b) (second : b.Leads c) :
    a.Leads c where
  request := second.request.trans first.request
  stage := Nat.le_trans first.stage second.stage
  ended := fun ended => by
    obtain rfl := first.ended ended
    exact second.ended ended

/-- What happens to the place of an entry, if `right` answers are given and `told` reasons. -/
inductive Moves (right : Req → Ans → Prop) (told : Why → Prop) :
    Option (Entry Req Ans Why) → Option (Entry Req Ans Why) → Prop where
  | accept (request : Req) : Moves right told none (some ⟨request, .waiting⟩)
  | advance {entry : Entry Req Ans Why} {phase : Phase Ans Why}
      (next : entry.phase.Next (right entry.request) told phase) :
      Moves right told (some entry) (some ⟨entry.request, phase⟩)

variable {right : Req → Ans → Prop} {told : Why → Prop} {entry : Entry Req Ans Why}
variable {place : Option (Entry Req Ans Why)}

theorem Moves.leads (moved : Moves right told (some entry) place) :
    ∃ entry', place = some entry' ∧ entry.Leads entry' := by
  cases moved with
  | advance next =>
      refine ⟨_, rfl, rfl, Nat.le_of_lt next.stage, fun ended => ?_⟩
      exact absurd ended next.going_on

/-- The answer is right, or the reason told, if there is one. -/
def Entry.Right (right : Req → Ans → Prop) (told : Why → Prop) (entry : Entry Req Ans Why) : Prop :=
  match entry.phase with
  | .answered answer => right entry.request answer
  | .failed why => told why
  | _ => True

theorem Phase.Next.sound {request : Req} {phase phase' : Phase Ans Why}
    (next : phase.Next (right request) told phase') : Entry.Right right told ⟨request, phase'⟩ := by
  cases next with
  | start | cancel => trivial
  | answer _ isRight => exact isRight
  | fail _ isTold => exact isTold

theorem Moves.sound {before : Option (Entry Req Ans Why)} (moved : Moves right told before (some entry)) :
    entry.Right right told := by
  cases moved with
  | accept request => trivial
  | advance next => exact next.sound

/-! ## The ledger -/

/-- The entries, by the id that the request was given. -/
abbrev Book (Id : Type u) (Req : Type v) (Ans : Type w) (Why : Type x) := Id → Option (Entry Req Ans Why)

section System

variable [DecidableEq Id]

/-- One entry is made, or advances. -/
inductive Step (right : Req → Ans → Prop) (told : Why → Prop) :
    Book Id Req Ans Why → Book Id Req Ans Why → Prop where
  | entry {book : Book Id Req Ans Why} {id : Id} {place : Option (Entry Req Ans Why)}
      (moved : Moves right told (book id) place) : Step right told book (Function.update book id place)

def ledger (right : Req → Ans → Prop) (told : Why → Prop) : System (Book Id Req Ans Why) where
  init := fun book => book = fun _ => none
  step := Step right told

variable {book book' : Book Id Req Ans Why} {id : Id}

/-- A step leads every entry on. -/
theorem Step.leads (stepped : Step right told book book') (found : book id = some entry) :
    ∃ entry', book' id = some entry' ∧ entry.Leads entry' := by
  cases stepped with
  | @entry other place moved =>
      obtain rfl | elsewhere := eq_or_ne id other
      · rw [found] at moved
        rw [Function.update_self]
        exact moved.leads
      · exact ⟨entry, (Function.update_of_ne elsewhere _ _).trans found, .refl entry⟩

/-- **key theorem.** An entry stays, with its request, and does not go back; and what is over
stays as it is. -/
theorem keeps_entry (later : (ledger right told).Steps book book') (found : book id = some entry) :
    ∃ entry', book' id = some entry' ∧ entry.Leads entry' := by
  refine later.keeps (P := fun book => ∃ entry', book id = some entry' ∧ entry.Leads entry') ?_
    ⟨entry, found, .refl entry⟩
  rintro b b' ⟨entry', found', leads⟩ stepped
  obtain ⟨entry'', found'', leads'⟩ := Step.leads stepped found'
  exact ⟨entry'', found'', leads.trans leads'⟩

/-- **key theorem.** Every answer in a reachable ledger is right, and every reason told. -/
theorem right_answers (reachable : (ledger right told).Reachable book) (found : book id = some entry) :
    entry.Right right told := by
  refine System.invariant (P := fun book => ∀ id entry, book id = some entry → Entry.Right right told entry)
    ?_ ?_ reachable id entry found
  · rintro _ rfl id entry found
    cases found
  · rintro b b' rights ⟨moved⟩ id entry found
    rename_i other place
    obtain rfl | elsewhere := eq_or_ne id other
    · rw [Function.update_self] at found
      subst found
      exact moved.sound
    · exact rights id entry ((Function.update_of_ne elsewhere _ _).symm.trans found)

end System

end KubeRayBatch.Theory.Ledger
