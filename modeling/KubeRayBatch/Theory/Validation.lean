/-
# Theory.Validation -- checks that report everything they find

A `Validation` is a value, or a non-empty list of complaints.  Combining two of them (`both`),
or the entries of a list (`all`), keeps the complaints of all of them in order, so a value
comes out exactly when every part is valid.

* `both_valid`, `all_valid`: what comes out are the values of the parts;
* `errors_both`, `errors_all`: the complaints are those of the parts, none lost;
* `errors_nil`: there is a value exactly when there is no complaint.
-/
import Mathlib.Data.List.Basic

namespace KubeRayBatch.Theory

set_option autoImplicit false

inductive Validation (ε α : Type) where
  | valid (a : α)
  | invalid (first : ε) (more : List ε)
  deriving DecidableEq, Repr

namespace Validation

variable {ε α β : Type}

def errors : Validation ε α → List ε
  | valid _ => []
  | invalid first more => first :: more

def map (f : α → β) : Validation ε α → Validation ε β
  | valid a => valid (f a)
  | invalid first more => invalid first more

/-- Both, with the complaints of both. -/
def both : Validation ε α → Validation ε β → Validation ε (α × β)
  | valid a, valid b => valid (a, b)
  | valid _, invalid first more => invalid first more
  | invalid first more, y => invalid first (more ++ y.errors)

/-- Every entry of a list. -/
def all : List (Validation ε α) → Validation ε (List α)
  | [] => valid []
  | x :: xs => (both x (all xs)).map fun parts => parts.1 :: parts.2

/-- One condition, and the complaint when it fails. -/
def require (condition : Bool) (complaint : ε) (a : α) : Validation ε α :=
  if condition then valid a else invalid complaint []

@[simp] theorem errors_valid (a : α) : errors (valid a : Validation ε α) = [] := rfl

@[simp] theorem errors_map (f : α → β) (x : Validation ε α) : (x.map f).errors = x.errors := by
  cases x <;> rfl

@[simp] theorem map_valid {f : α → β} {x : Validation ε α} {b : β} :
    x.map f = valid b ↔ ∃ a, x = valid a ∧ f a = b := by
  cases x <;> simp [map]

/-- **No complaint is lost.** -/
@[simp] theorem errors_both (x : Validation ε α) (y : Validation ε β) :
    (both x y).errors = x.errors ++ y.errors := by
  cases x <;> cases y <;> rfl

/-- **Two parts are valid together** when each of them is. -/
@[simp] theorem both_valid {x : Validation ε α} {y : Validation ε β} {c : α × β} :
    both x y = valid c ↔ x = valid c.1 ∧ y = valid c.2 := by
  obtain ⟨a, b⟩ := c
  cases x <;> cases y <;> simp [both]

theorem errors_nil {x : Validation ε α} : x.errors = [] ↔ ∃ a, x = valid a := by
  cases x <;> simp [errors]

@[simp] theorem errors_all (xs : List (Validation ε α)) : (all xs).errors = xs.flatMap errors := by
  induction xs with
  | nil => rfl
  | cons x xs ih => rw [all, errors_map, errors_both, ih, List.flatMap_cons]

/-- **A list is valid** when each of its entries is. -/
theorem all_valid {xs : List (Validation ε α)} {values : List α} :
    all xs = valid values ↔ xs = values.map valid := by
  induction xs generalizing values with
  | nil => cases values <;> simp [all]
  | cons x xs ih =>
      cases values with
      | nil => simp [all]
      | cons a values =>
          simp only [all, map_valid, both_valid, Prod.exists, List.cons.injEq, List.map_cons]
          constructor
          · rintro ⟨a', values', ⟨here, there⟩, rfl, rfl⟩
            exact ⟨here, ih.1 there⟩
          · rintro ⟨here, there⟩
            exact ⟨a, values, ⟨here, ih.2 there⟩, rfl, rfl⟩

@[simp] theorem require_valid {condition : Bool} {complaint : ε} {a b : α} :
    require condition complaint a = valid b ↔ condition = true ∧ a = b := by
  cases condition <;> simp [require]

end Validation

end KubeRayBatch.Theory
