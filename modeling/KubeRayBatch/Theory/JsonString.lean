/-
# Theory.JsonString -- JSON string literals: ASCII escaping and strict scanning

`escape` is the body that an encoder with `ensure_ascii` writes between the
quotes: printable ASCII goes through, quote and backslash and the five short
escapes get a backslash, everything else becomes `\uXXXX`, a surrogate pair
beyond the basic plane.  `scan` is the strict scanner that reads a body up to
its closing quote and refuses raw control characters.  An escape of half a
surrogate pair is read as that half; who reads a string joins the halves.

* `scan_escape`: scanning an escaped body gives the code units of its string;
* `scan_extends`: a scan that reached its closing quote does not depend on what
  follows the quote, nor on spare fuel;
* `escape_printable`: an escaped body has no control character, so no line break.
-/
import KubeRayBatch.Theory.CodePoints
import Mathlib.Tactic.IntervalCases

namespace KubeRayBatch.Theory.JsonString

set_option autoImplicit false

open Str

/-! ## Four hexadecimal digits -/

def hexDigit (d : Nat) : Char := if d < 10 then Char.ofNat (48 + d) else Char.ofNat (87 + d)

def hexValue (c : Char) : Option Nat :=
  if '0' ≤ c ∧ c ≤ '9' then some (c.toNat - 48)
  else if 'a' ≤ c ∧ c ≤ 'f' then some (c.toNat - 87)
  else if 'A' ≤ c ∧ c ≤ 'F' then some (c.toNat - 55)
  else none

def hex4 (n : Nat) : List Char :=
  [hexDigit (n / 4096 % 16), hexDigit (n / 256 % 16), hexDigit (n / 16 % 16), hexDigit (n % 16)]

def readHex4 : List Char → Option (Nat × List Char)
  | a :: b :: c :: d :: rest =>
      match hexValue a, hexValue b, hexValue c, hexValue d with
      | some a, some b, some c, some d => some (4096 * a + 256 * b + 16 * c + d, rest)
      | _, _, _, _ => none
  | _ => none

theorem hexValue_hexDigit {d : Nat} (small : d < 16) : hexValue (hexDigit d) = some d := by
  interval_cases d <;> decide

theorem hexDigit_printable {d : Nat} (small : d < 16) : 32 ≤ (hexDigit d).toNat := by
  interval_cases d <;> decide

theorem readHex4_hex4 {n : Nat} (small : n < 65536) (rest : List Char) :
    readHex4 (hex4 n ++ rest) = some (n, rest) := by
  simp only [hex4, List.cons_append, List.nil_append, readHex4,
    hexValue_hexDigit (Nat.mod_lt _ (by decide : 0 < 16))]
  congr 2
  omega

theorem readHex4_extends {cs rest : List Char} {n : Nat} (read : readHex4 cs = some (n, rest))
    (more : List Char) : readHex4 (cs ++ more) = some (n, rest ++ more) := by
  match cs, read with
  | a :: b :: c :: d :: tail, read =>
      simp only [List.cons_append, readHex4] at read ⊢
      split at read <;> simp_all
  | [], read | [_], read | [_, _], read | [_, _, _], read => simp [readHex4] at read

/-! ## Escaping -/

/-- The two-character escapes, as the character after the backslash. -/
def shortEscape (c : Char) : Option Char :=
  if c = '"' then some '"' else if c = '\\' then some '\\'
  else if c = '\n' then some 'n' else if c = '\r' then some 'r' else if c = '\t' then some 't'
  else if c = Char.ofNat 8 then some 'b' else if c = Char.ofNat 12 then some 'f'
  else none

def unicodeEscape (n : Nat) : List Char := '\\' :: 'u' :: hex4 n

def escapeChar (c : Char) : List Char :=
  match shortEscape c with
  | some e => ['\\', e]
  | none =>
      if 32 ≤ c.toNat ∧ c.toNat ≤ 126 then [c]
      else if c.toNat < 65536 then unicodeEscape c.toNat
      else unicodeEscape (0xd800 + (c.toNat - 65536) / 1024) ++
        unicodeEscape (0xdc00 + (c.toNat - 65536) % 1024)

def escapePoint : CodePoint → List Char
  | .scalar c => escapeChar c
  | .lone n => unicodeEscape (0xd800 + n.val)

def escape (s : Str) : List Char := s.flatMap escapePoint

theorem hex4_printable {n : Nat} {c : Char} (mem : c ∈ hex4 n) : 32 ≤ c.toNat := by
  simp only [hex4, List.mem_cons, List.not_mem_nil, or_false] at mem
  rcases mem with rfl | rfl | rfl | rfl <;> exact hexDigit_printable (Nat.mod_lt _ (by decide))

theorem unicodeEscape_printable {n : Nat} {c : Char} (mem : c ∈ unicodeEscape n) :
    32 ≤ c.toNat := by
  simp only [unicodeEscape, List.mem_cons] at mem
  rcases mem with rfl | rfl | mem
  · decide
  · decide
  · exact hex4_printable mem

theorem shortEscape_printable {c e : Char} (short : shortEscape c = some e) : 32 ≤ e.toNat := by
  unfold shortEscape at short
  split_ifs at short <;> (cases short; decide)

theorem escapeChar_printable {c d : Char} (mem : d ∈ escapeChar c) : 32 ≤ d.toNat := by
  unfold escapeChar at mem
  split at mem
  · rename_i e short
    simp only [List.mem_cons, List.not_mem_nil, or_false] at mem
    rcases mem with rfl | rfl
    · decide
    · exact shortEscape_printable short
  · split_ifs at mem with printable plane
    · rw [List.mem_singleton.1 mem]
      exact printable.1
    · exact unicodeEscape_printable mem
    · rcases List.mem_append.1 mem with mem | mem <;> exact unicodeEscape_printable mem

/-- An escaped body holds no control character. -/
theorem escape_printable {s : Str} {c : Char} (mem : c ∈ escape s) : 32 ≤ c.toNat := by
  obtain ⟨d, -, inEscape⟩ := List.mem_flatMap.1 mem
  cases d with
  | scalar d => exact escapeChar_printable inEscape
  | lone n => exact unicodeEscape_printable inEscape

/-- Any character beyond the basic plane is written as its two halves. -/
theorem escapeChar_halves {c : Char} (beyond : 65536 ≤ c.toNat) :
    escapeChar c = unicodeEscape (0xd800 + (highHalf c).val) ++
      unicodeEscape (0xd800 + (lowHalf c).val) := by
  have notShort : shortEscape c = none := by
    cases short : shortEscape c with
    | none => rfl
    | some e =>
        exfalso
        unfold shortEscape at short
        split_ifs at short <;> (subst c; exact absurd beyond (by decide))
  unfold escapeChar
  rw [notShort, highHalf_val, lowHalf_val]
  simp only
  rw [if_neg (by omega), if_neg (by omega), show 0xd800 + (1024 + (c.toNat - 65536) % 1024) =
    0xdc00 + (c.toNat - 65536) % 1024 by omega]

/-- Joining halves does not change what is written. -/
theorem escape_joined (s : Str) : escape (joined s) = escape s := by
  induction s with
  | nil => rfl
  | cons c s ih =>
      rw [joined]
      rcases join_cases c (joined s) with same | ⟨high, low, t, rfl, tail, isHigh, isLow, same⟩
      · rw [same, escape, List.flatMap_cons, ← escape, ih]
        rfl
      · have beyond : 65536 ≤ (pair high low).toNat := by
          rw [pair_toNat isHigh isLow]
          omega
        have halves := halves_pair isHigh isLow
        rw [tail] at ih
        rw [same, escape, List.flatMap_cons, escapePoint, escapeChar_halves beyond, halves.1, halves.2,
          List.append_assoc]
        exact congrArg (unicodeEscape (0xd800 + high.val) ++ ·) ih

/-! ## Scanning -/

def shortUnescape (c : Char) : Option Char :=
  if c = '"' then some '"' else if c = '\\' then some '\\' else if c = '/' then some '/'
  else if c = 'b' then some (Char.ofNat 8) else if c = 'f' then some (Char.ofNat 12)
  else if c = 'n' then some '\n' else if c = 'r' then some '\r' else if c = 't' then some '\t'
  else none

/-- A code unit, as a code point. -/
def ofUnit (unit : Nat) : CodePoint :=
  if half : 0xd800 ≤ unit ∧ unit ≤ 0xdfff then .lone ⟨unit - 0xd800, by omega⟩
  else .scalar (Char.ofNat unit)

/-- The code unit after `\u`. -/
def scanUnicode (cs : List Char) : Option (CodePoint × List Char) :=
  (readHex4 cs).map fun (unit, rest) => (ofUnit unit, rest)

/-- One step of the scanner: the closing quote (`none`) or one code unit. -/
def scanItem : List Char → Option (Option CodePoint × List Char)
  | [] => none
  | c :: rest =>
      if c = '"' then some (none, rest)
      else if c = '\\' then
        match rest with
        | [] => none
        | e :: rest =>
            if e = 'u' then (scanUnicode rest).map fun (d, rest) => (some d, rest)
            else (shortUnescape e).map fun d => (some (.scalar d), rest)
      else if c.toNat < 32 then none
      else some (some (.scalar c), rest)

/-- Scan a body up to and including its closing quote. -/
def scan : Nat → List Char → Option (Str × List Char)
  | 0, _ => none
  | n + 1, cs =>
      match scanItem cs with
      | none => none
      | some (none, rest) => some ([], rest)
      | some (some c, rest) => (scan n rest).map fun (s, rest) => (c :: s, rest)

theorem scanUnicode_extends {cs rest : List Char} {c : CodePoint}
    (scanned : scanUnicode cs = some (c, rest)) (more : List Char) :
    scanUnicode (cs ++ more) = some (c, rest ++ more) := by
  obtain ⟨⟨unit, tail⟩, read, same⟩ := Option.map_eq_some_iff.1 scanned
  cases same
  rw [scanUnicode, readHex4_extends read more, Option.map_some]

theorem scanItem_extends {cs rest : List Char} {item : Option CodePoint}
    (scanned : scanItem cs = some (item, rest)) (more : List Char) :
    scanItem (cs ++ more) = some (item, rest ++ more) := by
  cases cs with
  | nil => simp [scanItem] at scanned
  | cons c tail =>
      simp only [scanItem, List.cons_append] at scanned ⊢
      split_ifs at scanned ⊢ with quote backslash control
      · cases scanned
        rfl
      · cases tail with
        | nil => simp at scanned
        | cons e tail =>
            simp only [List.cons_append] at scanned ⊢
            split_ifs at scanned ⊢
            · obtain ⟨⟨d, after⟩, found, same⟩ := Option.map_eq_some_iff.1 scanned
              cases same
              simp [scanUnicode_extends found more]
            · obtain ⟨d, found, same⟩ := Option.map_eq_some_iff.1 scanned
              cases same
              simp [found]
      · cases scanned
        rfl

/-- **A finished scan is final.**  More text after the closing quote, or more
fuel, changes nothing. -/
theorem scan_extends {n m : Nat} (fuel : n ≤ m) {cs rest : List Char} {s : Str}
    (scanned : scan n cs = some (s, rest)) (more : List Char) :
    scan m (cs ++ more) = some (s, rest ++ more) := by
  induction n generalizing m cs s rest with
  | zero => simp [scan] at scanned
  | succ n ih =>
      obtain ⟨m, rfl⟩ : ∃ k, m = k + 1 := ⟨m - 1, by omega⟩
      simp only [scan] at scanned ⊢
      cases item : scanItem cs with
      | none => simp [item] at scanned
      | some pair =>
          obtain ⟨item', tail⟩ := pair
          simp only [item] at scanned
          simp only [scanItem_extends item more]
          cases item' with
          | none =>
              cases scanned
              rfl
          | some c =>
              obtain ⟨⟨body, after⟩, found, same⟩ := Option.map_eq_some_iff.1 scanned
              cases same
              simp [ih (by omega : n ≤ m) found]

/-! ## Round trip -/

theorem shortUnescape_shortEscape {c e : Char} (short : shortEscape c = some e) :
    e ≠ 'u' ∧ shortUnescape e = some c := by
  unfold shortEscape at short
  split_ifs at short with h1 h2 h3 h4 h5 h6 h7 <;>
    (cases short; subst c; exact ⟨by decide, by decide⟩)

theorem ofUnit_scalar (c : Char) : ofUnit c.toNat = .scalar c := by
  have range := (char_toNat_cases c).1
  rw [ofUnit, dif_neg (by omega), Char.ofNat_toNat]

theorem ofUnit_lone (n : Fin 2048) : ofUnit (0xd800 + n.val) = .lone n := by
  have small := n.isLt
  rw [ofUnit, dif_pos (by omega)]
  exact congrArg CodePoint.lone (Fin.ext (Nat.add_sub_cancel_left ..))

/-- An escaped code unit is read as that unit. -/
theorem scanItem_unicodeEscape {unit : Nat} (small : unit < 65536) (rest : List Char) :
    scanItem (unicodeEscape unit ++ rest) = some (some (ofUnit unit), rest) := by
  simp [unicodeEscape, scanItem, scanUnicode, readHex4_hex4 small rest]

theorem scanItem_lone (n : Fin 2048) (rest : List Char) :
    scanItem (unicodeEscape (0xd800 + n.val) ++ rest) = some (some (.lone n), rest) := by
  have small := n.isLt
  rw [scanItem_unicodeEscape (by omega), ofUnit_lone]

/-- A character of the basic plane is one code unit. -/
theorem scanItem_escapeChar {c : Char} (plane : c.toNat < 65536) (rest : List Char) :
    scanItem (escapeChar c ++ rest) = some (some (.scalar c), rest) := by
  unfold escapeChar
  split
  · rename_i e short
    obtain ⟨notU, back⟩ := shortUnescape_shortEscape short
    simp [scanItem, notU, back]
  · rename_i long
    have notQuote : c ≠ '"' := by rintro rfl; simp [shortEscape] at long
    have notBackslash : c ≠ '\\' := by rintro rfl; simp [shortEscape] at long
    split_ifs with printable
    · simp only [List.singleton_append, scanItem, notQuote, notBackslash, if_false]
      rw [if_neg (by omega)]
    · rw [scanItem_unicodeEscape plane, ofUnit_scalar]

/-- A code point is written so that these units are read. -/
def Reads (escape : CodePoint → List Char) (units : CodePoint → Str) : Prop :=
  ∀ c n rest, scan (n + (units c).length) (escape c ++ rest) =
    (scan n rest).map fun (s, rest) => (units c ++ s, rest)

theorem scan_one {cs rest : List Char} {c : CodePoint} (item : scanItem cs = some (some c, rest))
    (n : Nat) : scan (n + 1) cs = (scan n rest).map fun (s, rest) => ([c] ++ s, rest) := by
  simp [scan, item]

theorem escapePoint_reads : Reads escapePoint unitsOf := by
  intro c n rest
  cases c with
  | lone m => exact scan_one (scanItem_lone m rest) n
  | scalar c =>
      rw [unitsOf, escapePoint]
      split_ifs with plane
      · exact scan_one (scanItem_escapeChar plane rest) n
      · rw [escapeChar_halves (Nat.le_of_not_lt plane), List.append_assoc]
        refine (scan_one (scanItem_lone _ _) (n + 1)).trans ?_
        rw [scan_one (scanItem_lone _ rest) n, Option.map_map]
        rfl

/-- **Scanning** a body gives the units of its code points. -/
theorem scan_flatMap {escape : CodePoint → List Char} {units : CodePoint → Str}
    (reads : Reads escape units) (s : Str) (rest : List Char) {n : Nat}
    (fuel : (s.flatMap units).length < n) :
    scan n (s.flatMap escape ++ '"' :: rest) = some (s.flatMap units, rest) := by
  induction s generalizing n with
  | nil =>
      obtain ⟨n, rfl⟩ : ∃ k, n = k + 1 := ⟨n - 1, by omega⟩
      simp [scan, scanItem]
  | cons c s ih =>
      simp only [List.flatMap_cons, List.length_append] at fuel ⊢
      obtain ⟨k, rfl⟩ : ∃ k, n = k + (units c).length := ⟨n - (units c).length, by omega⟩
      rw [List.append_assoc, reads, ih (by omega), Option.map_some]

/-- **Scanning an escaped body** gives the code units of its string. -/
theorem scan_escape (s : Str) (rest : List Char) {n : Nat} (fuel : (units s).length < n) :
    scan n (escape s ++ '"' :: rest) = some (units s, rest) :=
  scan_flatMap escapePoint_reads s rest fuel

theorem length_unicodeEscape (n : Nat) : (unicodeEscape n).length = 6 := rfl

theorem length_unitsOf_le (c : CodePoint) : (unitsOf c).length ≤ (escapePoint c).length := by
  cases c with
  | lone n => simp [unitsOf, escapePoint, length_unicodeEscape]
  | scalar c =>
      rw [unitsOf, escapePoint]
      split_ifs with plane
      · unfold escapeChar
        split
        · simp
        · split_ifs <;> simp [length_unicodeEscape]
      · simp [escapeChar_halves (Nat.le_of_not_lt plane), length_unicodeEscape]

theorem length_flatMap_le {escape : CodePoint → List Char} {units : CodePoint → Str}
    (each : ∀ c, (units c).length ≤ (escape c).length) (s : Str) :
    (s.flatMap units).length ≤ (s.flatMap escape).length := by
  induction s with
  | nil => exact le_rfl
  | cons c s ih =>
      have := each c
      simp only [List.flatMap_cons, List.length_append]
      omega

theorem length_units_le_escape (s : Str) : (units s).length ≤ (escape s).length :=
  length_flatMap_le length_unitsOf_le s

end KubeRayBatch.Theory.JsonString
