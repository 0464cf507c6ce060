/-
# Theory.CodePoints -- strings that may hold lone surrogates

A string of an interpreter is a sequence of code points, and a code point may be one half of a
surrogate pair.  A text, which a file or a database can hold, is a sequence of Unicode scalar
values.  `ofText` is the inclusion of texts, `text?` its partial inverse.

A decoder that reads UTF-16 code units joins adjacent halves (`joined`), so it gives back a
string whose halves stand alone.

* `text?_iff`: a string is a text exactly when no half stands in it;
* `joined_units`: a string and its code units are joined to the same string.
-/
import Mathlib.Data.List.Basic
import Mathlib.Data.Char

namespace KubeRayBatch.Theory

set_option autoImplicit false

/-- A scalar value, or half of a surrogate pair: `U+D800 + n`. -/
inductive CodePoint where
  | scalar (c : Char)
  | lone (n : Fin 2048)
  deriving DecidableEq, Repr

abbrev Str := List CodePoint

namespace Str

/-! ## Texts -/

def ofText (text : List Char) : Str := text.map .scalar

/-- The text, if no half of a surrogate pair stands in the string. -/
def text? : Str → Option (List Char)
  | [] => some []
  | .scalar c :: s => (text? s).map (c :: ·)
  | .lone _ :: _ => none

@[simp] theorem ofText_nil : ofText [] = [] := rfl
@[simp] theorem ofText_cons (c : Char) (text : List Char) :
    ofText (c :: text) = .scalar c :: ofText text := rfl

@[simp] theorem text?_ofText (text : List Char) : text? (ofText text) = some text := by
  induction text with
  | nil => rfl
  | cons c text ih => rw [ofText_cons, text?, ih, Option.map_some]

theorem text?_iff {s : Str} {text : List Char} : text? s = some text ↔ s = ofText text := by
  constructor
  · intro isText
    induction s generalizing text with
    | nil =>
        cases isText
        rfl
    | cons c s ih =>
        cases c with
        | lone n => cases isText
        | scalar c =>
            obtain ⟨rest, isRest, rfl⟩ := Option.map_eq_some_iff.1 isText
            rw [ofText_cons, ih isRest]
  · rintro rfl
    exact text?_ofText text

theorem ofText_injective : Function.Injective ofText := fun _ _ same =>
  Option.some.inj (by rw [← text?_ofText, same, text?_ofText])

@[simp] theorem ofText_inj {text text' : List Char} : ofText text = ofText text' ↔ text = text' :=
  ofText_injective.eq_iff

@[simp] theorem ofText_eq_nil {text : List Char} : ofText text = [] ↔ text = [] := List.map_eq_nil_iff

/-! ## Surrogate pairs -/

/-- The scalar value of a pair. -/
def pair (high low : Fin 2048) : Char :=
  Char.ofNat (65536 + high.val * 1024 + (low.val - 1024))

/-- A code point before a string: it joins with a second half. -/
def join : CodePoint → Str → Str
  | .lone high, .lone low :: s =>
      if high.val < 1024 ∧ 1024 ≤ low.val then .scalar (pair high low) :: s
      else .lone high :: .lone low :: s
  | c, s => c :: s

/-- The string in which adjacent halves are joined. -/
def joined : Str → Str
  | [] => []
  | c :: s => join c (joined s)

@[simp] theorem join_scalar (c : Char) (s : Str) : join (.scalar c) s = .scalar c :: s := rfl

@[simp] theorem joined_ofText (text : List Char) : joined (ofText text) = ofText text := by
  induction text with
  | nil => rfl
  | cons c text ih => rw [ofText_cons, joined, ih, join_scalar]

theorem char_toNat_cases (c : Char) :
    (c.toNat < 0xd800 ∨ 0xdfff < c.toNat) ∧ c.toNat < 0x110000 := by
  have valid := c.valid
  simp only [UInt32.isValidChar, Nat.isValidChar] at valid
  change (c.val.toNat < 0xd800 ∨ 0xdfff < c.val.toNat) ∧ c.val.toNat < 0x110000
  omega

/-- The two halves of a scalar value beyond the basic plane. -/
def highHalf (c : Char) : Fin 2048 := Fin.ofNat 2048 ((c.toNat - 65536) / 1024)

def lowHalf (c : Char) : Fin 2048 := Fin.ofNat 2048 (1024 + (c.toNat - 65536) % 1024)

theorem highHalf_val (c : Char) : (highHalf c).val = (c.toNat - 65536) / 1024 := by
  have bound := (char_toNat_cases c).2
  exact Nat.mod_eq_of_lt (by omega)

theorem lowHalf_val (c : Char) : (lowHalf c).val = 1024 + (c.toNat - 65536) % 1024 :=
  Nat.mod_eq_of_lt (by omega)

theorem toNat_ofNat {n : Nat} (valid : n.isValidChar) : (Char.ofNat n).toNat = n := by
  unfold Char.ofNat
  rw [dif_pos valid]
  rfl

theorem pair_halves {c : Char} (beyond : 65536 ≤ c.toNat) : pair (highHalf c) (lowHalf c) = c := by
  unfold pair
  rw [highHalf_val, lowHalf_val, show 65536 + (c.toNat - 65536) / 1024 * 1024 +
    (1024 + (c.toNat - 65536) % 1024 - 1024) = c.toNat by omega, Char.ofNat_toNat]

theorem pair_toNat {high low : Fin 2048} (isHigh : high.val < 1024) (isLow : 1024 ≤ low.val) :
    (pair high low).toNat = 65536 + high.val * 1024 + (low.val - 1024) := by
  have small := low.isLt
  exact toNat_ofNat (.inr ⟨by omega, by omega⟩)

theorem halves_pair {high low : Fin 2048} (isHigh : high.val < 1024) (isLow : 1024 ≤ low.val) :
    highHalf (pair high low) = high ∧ lowHalf (pair high low) = low := by
  have small := low.isLt
  constructor
  · refine Fin.ext ?_
    rw [highHalf_val, pair_toNat isHigh isLow]
    omega
  · refine Fin.ext ?_
    rw [lowHalf_val, pair_toNat isHigh isLow]
    omega

/-- The UTF-16 code units of a code point, each as a code point. -/
def unitsOf : CodePoint → Str
  | .scalar c => if c.toNat < 65536 then [.scalar c] else [.lone (highHalf c), .lone (lowHalf c)]
  | .lone n => [.lone n]

def units (s : Str) : Str := s.flatMap unitsOf

theorem join_low {n : Fin 2048} (low : 1024 ≤ n.val) (s : Str) : join (.lone n) s = .lone n :: s := by
  unfold join
  split
  · rename_i high low' tail isLone
    cases isLone
    rw [if_neg (by omega)]
  · rfl

/-- A pair is joined, and anything else is left as it is. -/
theorem join_cases (c : CodePoint) (s : Str) : join c s = c :: s ∨
    ∃ high low t, c = .lone high ∧ s = .lone low :: t ∧ high.val < 1024 ∧ 1024 ≤ low.val ∧
      join c s = .scalar (pair high low) :: t := by
  unfold join
  split
  · rename_i high low t
    split_ifs with halves
    · exact .inr ⟨high, low, t, rfl, rfl, halves.1, halves.2, rfl⟩
    · exact .inl rfl
  · exact .inl rfl

theorem joined_eq_nil {s : Str} : joined s = [] ↔ s = [] := by
  cases s with
  | nil => exact Iff.rfl
  | cons c s =>
      rw [joined]
      rcases join_cases c (joined s) with same | ⟨_, _, _, -, -, -, -, same⟩ <;> simp [same]

/-- What is joined stays as it is. -/
theorem joined_joined (s : Str) : joined (joined s) = joined s := by
  induction s with
  | nil => rfl
  | cons c s ih =>
      rw [joined]
      rcases join_cases c (joined s) with same | ⟨high, low, t, rfl, tail, isHigh, isLow, same⟩
      · rw [same, joined, ih, same]
      · have rest : joined t = t := by
          rw [tail, joined, join_low isLow] at ih
          exact (List.cons.inj ih).2
        rw [same, joined, rest, join_scalar]

/-- **Code units** are joined to the string they are of. -/
theorem joined_units (s : Str) : joined (units s) = joined s := by
  induction s with
  | nil => rfl
  | cons c s ih =>
      have tail : joined (s.flatMap unitsOf) = joined s := ih
      rw [units, List.flatMap_cons]
      cases c with
      | lone n => rw [unitsOf, List.singleton_append, joined, joined, tail]
      | scalar c =>
          rw [unitsOf]
          split_ifs with plane
          · rw [List.singleton_append, joined, joined, tail]
          · have high : (highHalf c).val < 1024 := by
              have bound := (char_toNat_cases c).2
              rw [highHalf_val]
              omega
            have low : 1024 ≤ (lowHalf c).val := by
              rw [lowHalf_val]
              omega
            have halves := pair_halves (Nat.le_of_not_lt plane)
            rw [List.cons_append, List.singleton_append, joined, joined, joined, tail, join_low low,
              join, if_pos ⟨high, low⟩, halves, join_scalar]

end Str

end KubeRayBatch.Theory
