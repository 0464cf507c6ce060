/-
# Theory.Decimal -- decimal numerals as character lists

`chars n` is the decimal numeral of a natural number, the text that `str` and
`json.dumps` write for it (`toList_toString`), and `ofChars` folds a digit run back into its number.
The two are inverse (`ofChars_chars`), a numeral is made of ASCII digits only
(`chars_isDigit`), and only `0` itself starts with the digit zero
(`chars_head_zero`): the three facts a reader of numerals needs to know where a
numeral ends and what it means.
-/
import Mathlib.Data.Nat.Digits.Lemmas

namespace KubeRayBatch.Theory.Decimal

set_option autoImplicit false

/-- The ASCII character of a digit below ten. -/
def digit (d : Nat) : Char := Char.ofNat (48 + d)

/-- The value of an ASCII digit character. -/
def digitValue (c : Char) : Nat := c.toNat - 48

/-- The decimal numeral of `n`, most significant digit first. -/
def chars (n : Nat) : List Char :=
  if n = 0 then ['0'] else (Nat.digits 10 n).reverse.map digit

/-- The number a run of digits denotes. -/
def ofChars (cs : List Char) : Nat := cs.foldl (fun acc c => 10 * acc + digitValue c) 0

theorem digitValue_digit {d : Nat} (small : d < 10) : digitValue (digit d) = d := by
  interval_cases d <;> decide

theorem digit_isDigit {d : Nat} (small : d < 10) : (digit d).isDigit = true := by
  interval_cases d <;> decide

theorem digit_eq_zero {d : Nat} (small : d < 10) (zero : digit d = '0') : d = 0 := by
  have value := digitValue_digit small
  rw [zero] at value
  exact value.symm

/-- Folding a reversed digit list is `Nat.ofDigits`. -/
theorem ofChars_reverse_map (ds : List Nat) (small : ∀ d ∈ ds, d < 10) :
    ofChars (ds.reverse.map digit) = Nat.ofDigits 10 ds := by
  unfold ofChars
  rw [List.map_reverse, List.foldl_reverse, List.foldr_map]
  induction ds with
  | nil => rfl
  | cons d ds ih =>
      have tail := ih fun e he => small e (List.mem_cons_of_mem d he)
      simp only [List.foldr_cons, Nat.ofDigits_cons, tail,
        digitValue_digit (small d List.mem_cons_self)]
      omega

/-- **A numeral denotes its number.** -/
@[simp] theorem ofChars_chars (n : Nat) : ofChars (chars n) = n := by
  unfold chars
  split
  · rename_i zero
    rw [zero]; rfl
  · rw [ofChars_reverse_map _ fun d hd => Nat.digits_lt_base (by decide) hd, Nat.ofDigits_digits]

theorem chars_injective : Function.Injective chars :=
  Function.LeftInverse.injective ofChars_chars

theorem chars_ne_nil (n : Nat) : chars n ≠ [] := by
  unfold chars
  split
  · simp
  · rename_i positive
    simpa [Nat.digits_eq_nil_iff_eq_zero] using positive

theorem chars_isDigit {n : Nat} {c : Char} (mem : c ∈ chars n) : c.isDigit = true := by
  unfold chars at mem
  split at mem
  · rw [List.mem_singleton.1 mem]; rfl
  · obtain ⟨d, inDigits, rfl⟩ := List.mem_map.1 mem
    exact digit_isDigit (Nat.digits_lt_base (by decide) (List.mem_reverse.1 inDigits))

/-- Only the numeral of zero starts with the digit zero. -/
theorem chars_head_zero {n : Nat} {cs : List Char} (starts : chars n = '0' :: cs) :
    n = 0 ∧ cs = [] := by
  unfold chars at starts
  split at starts
  · rename_i zero
    exact ⟨zero, by simpa using starts.symm⟩
  · rename_i positive
    exfalso
    have nonempty : Nat.digits 10 n ≠ [] := by simpa [Nat.digits_eq_nil_iff_eq_zero] using positive
    have leading := Nat.getLast_digit_ne_zero 10 positive
    rw [← List.dropLast_append_getLast nonempty] at starts
    simp only [List.reverse_append, List.reverse_singleton, List.singleton_append, List.map_cons,
      List.cons.injEq] at starts
    exact leading (digit_eq_zero (Nat.digits_lt_base (by decide) (List.getLast_mem nonempty)) starts.1)

theorem digitChar_eq {d : Nat} (small : d < 10) : d.digitChar = digit d := by
  interval_cases d <;> decide

/-- **`str(n)`** is the numeral of `n`. -/
theorem toList_toString (n : Nat) : (toString n).toList = chars n := by
  induction n using Nat.strongRecOn with
  | ind n ih =>
      rw [Nat.toString_eq_repr, Nat.toList_repr]
      by_cases small : n < 10
      · rw [Nat.toDigits_of_lt_base small, digitChar_eq small]
        interval_cases n <;> decide
      · have large : 10 ≤ n := Nat.le_of_not_lt small
        have quotient := ih (n / 10) (by omega)
        rw [Nat.toString_eq_repr, Nat.toList_repr] at quotient
        have high : n / 10 ≠ 0 := by omega
        have positive : n ≠ 0 := by omega
        rw [Nat.toDigits_of_base_le (by decide) large, quotient,
          digitChar_eq (Nat.mod_lt n (by decide))]
        simp only [chars, if_neg high, if_neg positive]
        rw [Nat.digits_def' (by decide) (by omega : 0 < n), List.reverse_cons, List.map_append,
          List.map_singleton]

end KubeRayBatch.Theory.Decimal
