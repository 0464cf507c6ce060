/-
# Theory.Entries -- lists in which one entry is replaced, or one is added

The tasks of a system are the entries of a list, and their places are their names: a step
replaces one entry, or adds one at the end.

* `getElem?_set_one`, `getElem?_append_one`: an entry of the new list is the new one, or was there
  before;
* `getElem?_set_found`: an entry of the old list is still there, unless it is the one replaced;
* `map_set`, `countP_replace`: what an image, and a count, lose and gain.
-/
import Mathlib.Data.List.Basic

namespace KubeRayBatch.Theory

set_option autoImplicit false

variable {α β : Type} {xs : List α} {x x' y : α} {i j : Nat}

theorem getElem?_append_one (found : (xs ++ [x])[i]? = some y) :
    xs[i]? = some y ∨ i = xs.length ∧ y = x := by
  rw [List.getElem?_append] at found
  split at found
  · exact .inl found
  · rename_i late
    obtain ⟨bound, same⟩ := List.getElem?_eq_some_iff.1 found
    rw [List.length_singleton] at bound
    refine .inr ⟨by omega, ?_⟩
    rw [← same, List.getElem_singleton]

theorem getElem?_set_one (found : (xs.set i x)[j]? = some y) :
    j = i ∧ y = x ∨ j ≠ i ∧ xs[j]? = some y := by
  obtain rfl | other := eq_or_ne i j
  · obtain ⟨bound, -⟩ := List.getElem?_eq_some_iff.1 found
    rw [List.length_set] at bound
    exact .inl ⟨rfl, Option.some.inj (found.symm.trans (List.getElem?_set_self bound))⟩
  · exact .inr ⟨Ne.symm other, (List.getElem?_set_ne other).symm.trans found⟩

theorem getElem?_set_found (found : xs[i]? = some x) (found' : xs[j]? = some y) :
    y = x ∧ (xs.set i x')[j]? = some x' ∨ (xs.set i x')[j]? = some y := by
  obtain rfl | other := eq_or_ne i j
  · obtain ⟨bound, -⟩ := List.getElem?_eq_some_iff.1 found
    exact .inl ⟨Option.some.inj (found'.symm.trans found), List.getElem?_set_self bound⟩
  · exact .inr ((List.getElem?_set_ne other).trans found')

/-- An entry is replaced by one with the same image. -/
theorem map_set {f : α → β} (found : xs[i]? = some x) (same : f x' = f x) :
    (xs.set i x').map f = xs.map f := by
  obtain ⟨bound, -⟩ := List.getElem?_eq_some_iff.1 found
  refine List.ext_getElem? fun j => ?_
  rw [List.getElem?_map, List.getElem?_map]
  obtain rfl | other := eq_or_ne i j
  · rw [List.getElem?_set_self bound, found, Option.map_some, Option.map_some, same]
  · rw [List.getElem?_set_ne other]

/-- Counting after one entry is replaced. -/
theorem countP_replace (p : α → Bool) (found : xs[i]? = some x) :
    (xs.set i y).countP p + (p x).toNat = xs.countP p + (p y).toNat := by
  obtain ⟨inBounds, rfl⟩ := List.getElem?_eq_some_iff.1 found
  have counted := List.boole_getElem_le_countP (p := p) inBounds
  rw [List.countP_set inBounds]
  cases before : p xs[i] <;> cases p y <;>
    simp only [before, if_true, Bool.false_eq_true, if_false, Bool.toNat_true, Bool.toNat_false]
      at counted ⊢ <;>
    omega

end KubeRayBatch.Theory
