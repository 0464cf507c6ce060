/-
# Theory.Json -- flat JSON records: an encoder, a full decoder, and why a torn record fails

`loads` decodes any JSON text: nested arrays and objects, numbers with the JSON
grammar, the constants NaN and Infinity that lenient decoders accept.  `dumps`
encodes the records this development writes, objects whose members are scalars,
in the layout `{"a": 1, "b": "x"}`.  Strings may hold lone halves of surrogate pairs,
and adjacent halves are joined where a string is read.

* `loads_dumps`: decoding an encoded record gives its members back;
* `value_extends`: a decoder that finished a value does not look at what follows
  it, provided a numeral is not continued;
* `loads_proper_prefix`: no proper prefix of an encoded record decodes.  An object
  ends with its closing brace, so if the decoder accepted a proper prefix it would
  have stopped there on the whole record as well.
-/
import KubeRayBatch.Theory.Decimal
import KubeRayBatch.Theory.JsonString

namespace KubeRayBatch.Theory.Json

set_option autoImplicit false

open Decimal JsonString Str

/-! ## Values -/

/-- A decoded JSON value.  A number with a fraction or an exponent keeps its
lexeme; members of an object keep their order. -/
inductive Value where
  | null
  | bool (b : Bool)
  | int (i : Int)
  | float (lexeme : List Char)
  | str (s : Str)
  | arr (items : List Value)
  | obj (members : List (Str × Value))

/-- A repeated key means its last member. -/
def Value.get? (members : List (Str × Value)) (key : List Char) : Option Value :=
  (members.reverse.find? fun member => member.1 == ofText key).map (·.2)

/-! ## Numerals -/

/-- A character that continues a numeral. -/
def continues (c : Char) : Bool := c.isDigit || c == '.' || c == 'e' || c == 'E'

/-- Text after a numeral: it is empty or starts with a character that does not
continue it. -/
def Ends (rest : List Char) : Prop := ∀ c ∈ rest.head?, continues c = false

def spanDigits : List Char → List Char × List Char
  | [] => ([], [])
  | c :: cs => if c.isDigit then (c :: (spanDigits cs).1, (spanDigits cs).2) else ([], c :: cs)

/-- `0` or a digit run without a leading zero. -/
def integerPart : List Char → Option (List Char × List Char)
  | [] => none
  | c :: cs =>
      if c = '0' then some (['0'], cs)
      else if c.isDigit then some (c :: (spanDigits cs).1, (spanDigits cs).2)
      else none

/-- An optional point followed by at least one digit. -/
def fractionPart : List Char → List Char × List Char
  | '.' :: d :: cs =>
      if d.isDigit then ('.' :: d :: (spanDigits cs).1, (spanDigits cs).2)
      else ([], '.' :: d :: cs)
  | cs => ([], cs)

def signPart : List Char → List Char × List Char
  | [] => ([], [])
  | s :: cs => if s = '+' ∨ s = '-' then ([s], cs) else ([], s :: cs)

/-- An optional exponent mark, sign and at least one digit. -/
def exponentPart : List Char → List Char × List Char
  | [] => ([], [])
  | mark :: cs =>
      if (mark = 'e' ∨ mark = 'E') ∧ (spanDigits (signPart cs).2).1 ≠ [] then
        (mark :: (signPart cs).1 ++ (spanDigits (signPart cs).2).1, (spanDigits (signPart cs).2).2)
      else ([], mark :: cs)

/-- A numeral without its sign: the integer digits, then what makes it a float. -/
def unsigned (cs : List Char) : Option ((List Char × List Char) × List Char) :=
  (integerPart cs).map fun (digits, rest) =>
    ((digits, (fractionPart rest).1 ++ (exponentPart (fractionPart rest).2).1),
      (exponentPart (fractionPart rest).2).2)

/-- The value of a numeral: an integer unless it has a fraction or an exponent. -/
def numeral (negative : Bool) (digits tail : List Char) : Value :=
  if tail = [] then .int (if negative then -(ofChars digits : Int) else ofChars digits)
  else .float ((if negative then ['-'] else []) ++ digits ++ tail)

def number : List Char → Option (Value × List Char)
  | [] => none
  | c :: cs =>
      if c = '-' then (unsigned cs).map fun (parts, rest) => (numeral true parts.1 parts.2, rest)
      else (unsigned (c :: cs)).map fun (parts, rest) => (numeral false parts.1 parts.2, rest)

theorem Ends.notDigit {rest : List Char} (ends : Ends rest) :
    ∀ c ∈ rest.head?, c.isDigit = false := by
  intro c head
  have stop := ends c head
  simp_all [continues]

theorem spanDigits_stop {rest : List Char} (stop : ∀ c ∈ rest.head?, c.isDigit = false) :
    spanDigits rest = ([], rest) := by
  cases rest with
  | nil => rfl
  | cons c cs => simp [spanDigits, stop c (by simp)]

theorem spanDigits_extends (cs more : List Char)
    (stop : (spanDigits cs).2 = [] → ∀ c ∈ more.head?, c.isDigit = false) :
    spanDigits (cs ++ more) = ((spanDigits cs).1, (spanDigits cs).2 ++ more) := by
  induction cs with
  | nil => simpa [spanDigits] using spanDigits_stop (stop rfl)
  | cons c cs ih =>
      by_cases digit : c.isDigit = true
      · simp only [spanDigits, digit, if_true, List.cons_append] at stop ⊢
        rw [ih stop]
      · simp [spanDigits, digit]

theorem spanDigits_digits {ds : List Char} (digits : ∀ c ∈ ds, c.isDigit = true) :
    spanDigits ds = (ds, []) := by
  induction ds with
  | nil => rfl
  | cons c ds ih =>
      simp [spanDigits, digits c List.mem_cons_self,
        ih fun d hd => digits d (List.mem_cons_of_mem c hd)]

/-- A rest that ends a numeral has no fraction to read. -/
theorem fractionPart_ends {rest : List Char} (ends : Ends rest) :
    fractionPart rest = ([], rest) := by
  unfold fractionPart
  split
  · have := ends '.' (by simp)
    simp [continues] at this
  · rfl

theorem exponentPart_ends {rest : List Char} (ends : Ends rest) :
    exponentPart rest = ([], rest) := by
  cases rest with
  | nil => rfl
  | cons c cs =>
      have stop := ends c (by simp)
      simp only [continues, Bool.or_eq_false_iff, beq_eq_false_iff_ne] at stop
      simp [exponentPart, stop.1.2, stop.2]

theorem exponentPart_extends (cs more : List Char) (ends : Ends ((exponentPart cs).2 ++ more)) :
    exponentPart (cs ++ more) = ((exponentPart cs).1, (exponentPart cs).2 ++ more) := by
  cases cs with
  | nil => exact exponentPart_ends ends
  | cons mark cs =>
      by_cases marked : mark = 'e' ∨ mark = 'E'
      · by_cases digits : (spanDigits (signPart cs).2).1 = []
        · -- a mark without digits stays in the rest, and a mark continues a numeral
          have stop := ends mark (by simp [exponentPart, digits])
          rcases marked with rfl | rfl <;> simp [continues] at stop
        · have sign : signPart (cs ++ more) = ((signPart cs).1, (signPart cs).2 ++ more) := by
            cases cs with
            | nil => simp [signPart, spanDigits] at digits
            | cons s cs =>
                simp only [signPart, List.cons_append]
                split <;> rfl
          have span := spanDigits_extends (signPart cs).2 more fun drained => by
            simp only [exponentPart, marked, digits, ne_eq, not_false_eq_true, and_self, if_true,
              drained, List.nil_append] at ends
            exact ends.notDigit
          simp only [exponentPart, List.cons_append, sign, span, marked, digits, ne_eq,
            not_false_eq_true, and_self, if_true]
      · simp [exponentPart, marked]

theorem fractionPart_extends (cs more : List Char)
    (ends : Ends ((exponentPart (fractionPart cs).2).2 ++ more)) :
    fractionPart (cs ++ more) = ((fractionPart cs).1, (fractionPart cs).2 ++ more) := by
  match cs, ends with
  | [], ends => exact fractionPart_ends ends
  | [c], ends =>
      by_cases point : c = '.'
      · subst point
        have stop := ends '.' (by simp [fractionPart, exponentPart])
        simp [continues] at stop
      · simp [fractionPart, point]
  | c :: d :: cs, ends =>
      by_cases point : c = '.'
      · subst point
        by_cases digit : d.isDigit = true
        · simp only [fractionPart, digit, if_true, List.cons_append] at ends ⊢
          rw [spanDigits_extends cs more fun drained => by
            rw [drained] at ends
            exact Ends.notDigit ends]
        · simp [fractionPart, digit]
      · simp [fractionPart, point]

theorem unsigned_extends {cs rest : List Char} {parts : List Char × List Char}
    (read : unsigned cs = some (parts, rest)) (more : List Char) (ends : Ends (rest ++ more)) :
    unsigned (cs ++ more) = some (parts, rest ++ more) := by
  obtain ⟨⟨digits, tail⟩, found, same⟩ := Option.map_eq_some_iff.1 read
  simp only [Prod.mk.injEq] at same
  obtain ⟨rfl, rfl⟩ := same
  have integer : integerPart (cs ++ more) = some (digits, tail ++ more) := by
    cases cs with
    | nil => simp [integerPart] at found
    | cons c cs =>
        simp only [integerPart, List.cons_append] at found ⊢
        split_ifs at found ⊢
        · cases found; rfl
        · cases found
          rw [spanDigits_extends cs more fun drained => by
            rw [drained] at ends
            exact Ends.notDigit ends]
  simp only [unsigned, integer, Option.map_some, fractionPart_extends tail more ends,
    exponentPart_extends (fractionPart tail).2 more ends]

theorem number_extends {cs rest : List Char} {v : Value} (read : number cs = some (v, rest))
    (more : List Char) (ends : Ends (rest ++ more)) :
    number (cs ++ more) = some (v, rest ++ more) := by
  cases cs with
  | nil => simp [number] at read
  | cons c cs =>
      simp only [number, List.cons_append] at read ⊢
      split_ifs at read ⊢ <;>
        (obtain ⟨⟨parts, tail⟩, found, same⟩ := Option.map_eq_some_iff.1 read
         simp only [Prod.mk.injEq] at same
         obtain ⟨rfl, rfl⟩ := same)
      · simp [unsigned_extends found more ends]
      · rw [← List.cons_append, unsigned_extends found more ends]
        rfl

/-- A number starts with a minus sign or a digit, and is more than a minus sign. -/
theorem number_head {c : Char} {cs rest : List Char} {v : Value}
    (read : number (c :: cs) = some (v, rest)) :
    (c.isDigit = true ∧ c ≠ '-') ∨ (c = '-' ∧ ∃ d tail, cs = d :: tail ∧ d.isDigit = true) := by
  have digitHead : ∀ {d : Char} {tail : List Char} {p : (List Char × List Char) × List Char},
      unsigned (d :: tail) = some p → d.isDigit = true := by
    intro d tail p read
    obtain ⟨_, found, -⟩ := Option.map_eq_some_iff.1 read
    simp only [integerPart] at found
    split_ifs at found with zero digit
    · subst zero; rfl
    · exact digit
  simp only [number] at read
  split_ifs at read with minus <;> obtain ⟨p, found, -⟩ := Option.map_eq_some_iff.1 read
  · refine Or.inr ⟨minus, ?_⟩
    cases cs with
    | nil => simp [unsigned, integerPart] at found
    | cons d tail => exact ⟨d, tail, rfl, digitHead found⟩
  · exact Or.inl ⟨digitHead found, minus⟩

/-! ## Decoding -/

/-- JSON white space. -/
def isSpace (c : Char) : Bool := c == ' ' || c == '\t' || c == '\n' || c == '\r'

def skip : List Char → List Char
  | [] => []
  | c :: cs => if isSpace c then skip cs else c :: cs

/-- The members of an object, up to and including the closing brace. -/
def members (item : List Char → Option (Value × List Char)) :
    Nat → List Char → Option (List (Str × Value) × List Char)
  | 0, _ => none
  | n + 1, cs =>
      match skip cs with
      | '"' :: body =>
          match scan n body with
          | some (key, afterKey) =>
              match skip afterKey with
              | ':' :: afterColon =>
                  match item (skip afterColon) with
                  | some (v, afterValue) =>
                      match skip afterValue with
                      | '}' :: rest => some ([(joined key, v)], rest)
                      | ',' :: rest =>
                          (members item n rest).map fun (ms, rest) => ((joined key, v) :: ms, rest)
                      | _ => none
                  | none => none
              | _ => none
          | none => none
      | _ => none

/-- The items of an array, up to and including the closing bracket. -/
def items (item : List Char → Option (Value × List Char)) :
    Nat → List Char → Option (List Value × List Char)
  | 0, _ => none
  | n + 1, cs =>
      match item (skip cs) with
      | some (v, afterValue) =>
          match skip afterValue with
          | ']' :: rest => some ([v], rest)
          | ',' :: rest => (items item n rest).map fun (vs, rest) => (v :: vs, rest)
          | _ => none
      | none => none

def object (item : List Char → Option (Value × List Char)) (n : Nat) (cs : List Char) :
    Option (List (Str × Value) × List Char) :=
  match skip cs with
  | '}' :: rest => some ([], rest)
  | _ => members item n cs

def array (item : List Char → Option (Value × List Char)) (n : Nat) (cs : List Char) :
    Option (List Value × List Char) :=
  match skip cs with
  | ']' :: rest => some ([], rest)
  | _ => items item n cs

/-- The rest of a constant whose first character has been read. -/
def literal (word : List Char) (v : Value) (cs : List Char) : Option (Value × List Char) :=
  if word.isPrefixOf cs then some (v, cs.drop word.length) else none

/-- Decode one value at the start of the text.  The fuel bounds the nesting and
the lengths of strings and member lists; the length of the text is enough. -/
def value : Nat → List Char → Option (Value × List Char)
  | 0, _ => none
  | _ + 1, [] => none
  | n + 1, c :: cs =>
      if c = '"' then (scan n cs).map fun (s, rest) => (.str (joined s), rest)
      else if c = '{' then (object (value n) n cs).map fun (ms, rest) => (.obj ms, rest)
      else if c = '[' then (array (value n) n cs).map fun (vs, rest) => (.arr vs, rest)
      else if c = 'n' then literal ['u', 'l', 'l'] .null cs
      else if c = 't' then literal ['r', 'u', 'e'] (.bool true) cs
      else if c = 'f' then literal ['a', 'l', 's', 'e'] (.bool false) cs
      else if c = 'N' then literal ['a', 'N'] (.float "NaN".toList) cs
      else if c = 'I' then literal "nfinity".toList (.float "Infinity".toList) cs
      else if c = '-' ∧ cs.head? = some 'I' then
        literal "Infinity".toList (.float "-Infinity".toList) cs
      else number (c :: cs)

/-- Decode a whole text: one value between white space, and nothing else. -/
def loads (text : List Char) : Option Value :=
  match value (text.length + 1) (skip text) with
  | some (v, rest) => if skip rest = [] then some v else none
  | none => none

/-! ## What follows a finished value does not matter -/

/-- Whatever `p` accepts, `q` accepts with more text after it, if that text is
admissible for the rest. -/
def Extends {α : Type} (admissible : List Char → Prop)
    (p q : List Char → Option (α × List Char)) : Prop :=
  ∀ cs a rest more, p cs = some (a, rest) → admissible (rest ++ more) →
    q (cs ++ more) = some (a, rest ++ more)

theorem skip_append {cs : List Char} (stop : skip cs ≠ []) (more : List Char) :
    skip (cs ++ more) = skip cs ++ more := by
  induction cs with
  | nil => simp [skip] at stop
  | cons c cs ih =>
      by_cases space : isSpace c = true
      · simp only [skip, space, if_true, List.cons_append] at stop ⊢
        exact ih stop
      · simp [skip, space]

theorem skip_cons_append {cs rest : List Char} {c : Char} (stop : skip cs = c :: rest)
    (more : List Char) : skip (cs ++ more) = c :: (rest ++ more) := by
  rw [skip_append (by simp [stop]), stop, List.cons_append]

theorem skip_of_not_space {cs : List Char} (stop : ∀ c ∈ cs.head?, isSpace c = false) :
    skip cs = cs := by
  cases cs with
  | nil => rfl
  | cons c cs => simp [skip, stop c (by simp)]

/-- Text whose first non-space character does not continue a numeral ends one. -/
theorem ends_of_skip {cs rest : List Char} {c : Char} (stop : skip cs = c :: rest)
    (final : continues c = false) (more : List Char) : Ends (cs ++ more) := by
  intro d head
  cases cs with
  | nil => simp [skip] at stop
  | cons e cs =>
      have same : e = d := by simpa using head
      subst same
      by_cases space : isSpace e = true
      · simp only [isSpace, Bool.or_eq_true, beq_iff_eq] at space
        rcases space with ((rfl | rfl) | rfl) | rfl <;> decide
      · simp only [skip, space, Bool.false_eq_true, if_false, List.cons.injEq] at stop
        rw [stop.1]
        exact final

section Containers

variable {item item' : List Char → Option (Value × List Char)}

theorem members_extends (inner : Extends Ends item item') (empty : item [] = none) {n m : Nat}
    (fuel : n ≤ m) : Extends (fun _ => True) (members item n) (members item' m) := by
  induction n generalizing m with
  | zero => intro cs a rest more read; simp [members] at read
  | succ n ih =>
      intro cs ms rest more read _
      obtain ⟨m, rfl⟩ : ∃ k, m = k + 1 := ⟨m - 1, by omega⟩
      have fuel : n ≤ m := by omega
      simp only [members] at read ⊢
      split at read
      · rename_i body atKey
        rw [skip_cons_append atKey more]
        simp only
        split at read
        · rename_i key afterKey scanned
          rw [scan_extends fuel scanned more]
          simp only
          split at read
          · rename_i afterColon atColon
            rw [skip_cons_append atColon more]
            simp only
            split at read
            · rename_i v afterValue found
              have started : skip afterColon ≠ [] := by
                intro drained
                rw [drained, empty] at found
                cases found
              rw [skip_append started more]
              split at read
              · rename_i rest' atClose
                cases read
                rw [inner _ _ _ more found (ends_of_skip atClose (by decide) more)]
                simp only [skip_cons_append atClose more]
              · rename_i rest' atComma
                obtain ⟨⟨tail, after⟩, found', same⟩ := Option.map_eq_some_iff.1 read
                cases same
                rw [inner _ _ _ more found (ends_of_skip atComma (by decide) more)]
                simp only [skip_cons_append atComma more,
                  ih fuel _ _ _ more found' trivial, Option.map_some]
              · cases read
            · cases read
          · cases read
        · cases read
      · cases read

theorem items_extends (inner : Extends Ends item item') (empty : item [] = none) {n m : Nat}
    (fuel : n ≤ m) : Extends (fun _ => True) (items item n) (items item' m) := by
  induction n generalizing m with
  | zero => intro cs a rest more read; simp [items] at read
  | succ n ih =>
      intro cs vs rest more read _
      obtain ⟨m, rfl⟩ : ∃ k, m = k + 1 := ⟨m - 1, by omega⟩
      have fuel : n ≤ m := by omega
      simp only [items] at read ⊢
      split at read
      · rename_i v afterValue found
        have started : skip cs ≠ [] := by
          intro drained
          rw [drained, empty] at found
          cases found
        rw [skip_append started more]
        split at read
        · rename_i rest' atClose
          cases read
          rw [inner _ _ _ more found (ends_of_skip atClose (by decide) more)]
          simp only [skip_cons_append atClose more]
        · rename_i rest' atComma
          obtain ⟨⟨tail, after⟩, found', same⟩ := Option.map_eq_some_iff.1 read
          cases same
          rw [inner _ _ _ more found (ends_of_skip atComma (by decide) more)]
          simp only [skip_cons_append atComma more, ih fuel _ _ _ more found' trivial,
            Option.map_some]
        · cases read
      · cases read

theorem object_extends (inner : Extends Ends item item') (empty : item [] = none) {n m : Nat}
    (fuel : n ≤ m) : Extends (fun _ => True) (object item n) (object item' m) := by
  intro cs ms rest more read _
  simp only [object] at read ⊢
  split at read
  · rename_i tail atClose
    cases read
    simp only [skip_cons_append atClose more]
  · rename_i notClose
    have continued := members_extends inner empty fuel _ _ _ more read trivial
    have started : skip cs ≠ [] := by
      intro drained
      cases n <;> simp [members, drained] at read
    cases head : skip cs with
    | nil => exact absurd head started
    | cons c tail =>
        rw [skip_cons_append head more]
        split
        · rename_i same
          cases same
          exact absurd head (notClose tail)
        · exact continued

theorem array_extends (inner : Extends Ends item item') (empty : item [] = none) {n m : Nat}
    (fuel : n ≤ m) : Extends (fun _ => True) (array item n) (array item' m) := by
  intro cs vs rest more read _
  simp only [array] at read ⊢
  split at read
  · rename_i tail atClose
    cases read
    simp only [skip_cons_append atClose more]
  · rename_i notClose
    have continued := items_extends inner empty fuel _ _ _ more read trivial
    have started : skip cs ≠ [] := by
      intro drained
      cases n <;> simp [items, drained, empty] at read
    cases head : skip cs with
    | nil => exact absurd head started
    | cons c tail =>
        rw [skip_cons_append head more]
        split
        · rename_i same
          cases same
          exact absurd head (notClose tail)
        · exact continued

end Containers

theorem value_nil (n : Nat) : value n [] = none := by cases n <;> rfl

theorem literal_extends {word cs rest : List Char} {v w : Value}
    (read : literal word v cs = some (w, rest)) (more : List Char) :
    literal word v (cs ++ more) = some (w, rest ++ more) := by
  unfold literal at read ⊢
  split_ifs at read with found
  cases read
  obtain ⟨tail, rfl⟩ := List.isPrefixOf_iff_prefix.1 found
  simp

/-- **A finished value is final**, as long as a numeral is not continued. -/
theorem value_extends {n m : Nat} (fuel : n ≤ m) : Extends Ends (value n) (value m) := by
  induction n generalizing m with
  | zero => intro cs a rest more read; simp [value] at read
  | succ n ih =>
      intro cs v rest more read ends
      obtain ⟨m, rfl⟩ : ∃ k, m = k + 1 := ⟨m - 1, by omega⟩
      have fuel : n ≤ m := by omega
      cases cs with
      | nil => simp [value] at read
      | cons c cs =>
          simp only [value, List.cons_append] at read ⊢
          split_ifs at read with h1 h2 h3 h4 h5 h6 h7 h8 h9
          · obtain ⟨⟨s, tail⟩, found, same⟩ := Option.map_eq_some_iff.1 read
            cases same
            simp [h1, scan_extends fuel found more]
          · obtain ⟨⟨ms, tail⟩, found, same⟩ := Option.map_eq_some_iff.1 read
            cases same
            simp [h2, object_extends (ih fuel) (value_nil n) fuel _ _ _ more found trivial]
          · obtain ⟨⟨vs, tail⟩, found, same⟩ := Option.map_eq_some_iff.1 read
            cases same
            simp [h3, array_extends (ih fuel) (value_nil n) fuel _ _ _ more found trivial]
          · simpa [h4] using literal_extends read more
          · simpa [h5] using literal_extends read more
          · simpa [h6] using literal_extends read more
          · simpa [h7] using literal_extends read more
          · simpa [h8] using literal_extends read more
          · obtain ⟨minus, infinity⟩ := h9
            cases cs with
            | nil => simp at infinity
            | cons d cs =>
                have same : d = 'I' := by simpa using infinity
                subst minus same
                simpa using literal_extends read more
          · have number := number_extends read more ends
            have same : ¬(c = '-' ∧ (cs ++ more).head? = some 'I') := by
              rintro ⟨rfl, infinity⟩
              rcases number_head read with ⟨_, other⟩ | ⟨-, d, tail, rfl, digit⟩
              · exact other rfl
              · have isI : d = 'I' := by simpa using infinity
                subst isI
                exact absurd digit (by decide)
            rw [if_neg h1, if_neg h2, if_neg h3, if_neg h4, if_neg h5, if_neg h6, if_neg h7,
              if_neg h8, if_neg same]
            exact number

theorem continues_of_space {c : Char} (space : isSpace c = true) : continues c = false := by
  simp only [isSpace, Bool.or_eq_true, beq_iff_eq] at space
  rcases space with ((rfl | rfl) | rfl) | rfl <;> decide

/-- Text that is only white space. -/
theorem skip_eq_nil {cs : List Char} : skip cs = [] ↔ ∀ c ∈ cs, isSpace c = true := by
  induction cs with
  | nil => simp [skip]
  | cons c cs ih =>
      by_cases space : isSpace c = true <;> simp [skip, space, ih]

/-- **White space after a text** does not change what it decodes to. -/
theorem loads_space {text : List Char} {v : Value} (read : loads text = some v) {more : List Char}
    (space : ∀ c ∈ more, isSpace c = true) : loads (text ++ more) = some v := by
  unfold loads at read
  split at read
  · rename_i w rest found
    split at read
    · rename_i blank
      cases read
      have starts : skip text ≠ [] := by
        intro empty
        rw [empty, value_nil] at found
        cases found
      have blank' : ∀ c ∈ rest ++ more, isSpace c = true := by
        intro c mem
        exact (List.mem_append.1 mem).elim (skip_eq_nil.1 blank c) (space c)
      have ends : Ends (rest ++ more) := fun c head =>
        continues_of_space (blank' c (List.mem_of_mem_head? head))
      have extended := value_extends (m := (text ++ more).length + 1)
        (by simp : text.length + 1 ≤ (text ++ more).length + 1) _ _ _ more found ends
      unfold loads
      rw [skip_append starts, extended]
      simp [skip_eq_nil.2 blank']
    · cases read
  · cases read
/-! ## Encoding flat records -/

/-- The lexeme of a floating-point number, as `repr` writes it. -/
structure Float where
  lexeme : List Char
  reads : number lexeme = some (.float lexeme, [])

/-- The values a record's members may have. -/
inductive Scalar where
  | null
  | int (i : Int)
  | float (x : Float)
  | str (s : Str)

abbrev Record := List (List Char × Scalar)

namespace Scalar

def value : Scalar → Value
  | .null => .null
  | .int i => .int i
  | .float x => .float x.lexeme
  | .str s => .str (joined s)

/-- A text has no halves to join. -/
@[simp] theorem value_text (text : List Char) :
    value (.str (ofText text)) = .str (ofText text) := by
  rw [value, joined_ofText]

def dumps : Scalar → List Char
  | .null => ['n', 'u', 'l', 'l']
  | .int (.ofNat n) => chars n
  | .int (.negSucc n) => '-' :: chars (n + 1)
  | .float x => x.lexeme
  | .str s => '"' :: (escape s ++ ['"'])

end Scalar

def dumpsMember (member : List Char × Scalar) : List Char :=
  '"' :: (escape (ofText member.1) ++ '"' :: ':' :: ' ' :: member.2.dumps)

def dumpsMembers : Record → List Char
  | [] => []
  | [member] => dumpsMember member
  | member :: next :: rest => dumpsMember member ++ ',' :: ' ' :: dumpsMembers (next :: rest)

/-- Encode a record: `{"key": value, ...}`. -/
def dumps (record : Record) : List Char := '{' :: (dumpsMembers record ++ ['}'])

/-- The members a decoder reads from an encoded record. -/
def decoded (record : Record) : List (Str × Value) :=
  record.map fun member => (ofText member.1, member.2.value)

theorem unsigned_chars (n : Nat) : unsigned (chars n) = some ((chars n, []), []) := by
  cases shape : chars n with
  | nil => exact absurd shape (chars_ne_nil n)
  | cons c cs =>
      have digits : ∀ d ∈ c :: cs, d.isDigit = true := fun d mem => chars_isDigit (shape ▸ mem)
      by_cases zero : c = '0'
      · subst zero
        obtain ⟨-, rfl⟩ := chars_head_zero shape
        rfl
      · simp [unsigned, integerPart, zero, digits c List.mem_cons_self,
          spanDigits_digits fun d mem => digits d (List.mem_cons_of_mem c mem), fractionPart,
          exponentPart]

theorem number_int (i : Int) : number (Scalar.dumps (.int i)) = some (.int i, []) := by
  cases i with
  | ofNat n =>
      simp only [Scalar.dumps]
      cases shape : chars n with
      | nil => exact absurd shape (chars_ne_nil n)
      | cons c cs =>
          have digit : c.isDigit = true := chars_isDigit (shape ▸ List.mem_cons_self)
          have notMinus : c ≠ '-' := by rintro rfl; exact absurd digit (by decide)
          have read := unsigned_chars n
          rw [shape] at read
          have back := ofChars_chars n
          rw [shape] at back
          simp [number, notMinus, read, numeral, back]
  | negSucc n =>
      simp only [Scalar.dumps, number, if_true, unsigned_chars, Option.map_some, numeral,
        ofChars_chars]
      congr 3

/-- A numeral is read by the number case of the decoder. -/
theorem value_of_number {cs rest : List Char} {v : Value} (read : number cs = some (v, rest))
    (n : Nat) : value (n + 1) cs = some (v, rest) := by
  cases cs with
  | nil => simp [number] at read
  | cons c cs =>
      rcases number_head read with ⟨digit, notMinus⟩ | ⟨rfl, d, tail, rfl, digit⟩
      · have distinct : ∀ d : Char, d.isDigit = false → c ≠ d := by
          rintro d notDigit rfl
          rw [digit] at notDigit
          cases notDigit
        simp only [value, distinct '"' (by decide), distinct '{' (by decide),
          distinct '[' (by decide), distinct 'n' (by decide), distinct 't' (by decide),
          distinct 'f' (by decide), distinct 'N' (by decide), distinct 'I' (by decide), notMinus,
          if_false, false_and, read]
      · have notI : d ≠ 'I' := by rintro rfl; exact absurd digit (by decide)
        simp [value, notI, read]

theorem value_scalar (v : Scalar) {n : Nat} (fuel : v.dumps.length ≤ n) (rest : List Char)
    (ends : Ends rest) : value (n + 1) (v.dumps ++ rest) = some (v.value, rest) := by
  cases v with
  | null => simp [Scalar.dumps, value, literal, Scalar.value]
  | int i => exact value_of_number (number_extends (number_int i) rest ends) n
  | float x => exact value_of_number (number_extends x.reads rest ends) n
  | str s =>
      have short : (units s).length < n := by
        have := length_units_le_escape s
        simp only [Scalar.dumps, List.length_cons, List.length_append, List.length_nil] at fuel
        omega
      simp [Scalar.dumps, value, scan_escape s rest short, Scalar.value, joined_units]

theorem Scalar.dumps_head (v : Scalar) (rest : List Char) : skip (v.dumps ++ rest) = v.dumps ++ rest := by
  apply skip_of_not_space
  have numeralHead : ∀ {cs tail : List Char} {w : Value}, number cs = some (w, tail) →
      ∀ c ∈ (cs ++ rest).head?, isSpace c = false := by
    intro cs tail w read c head
    cases cs with
    | nil => simp [number] at read
    | cons d cs =>
        have same : d = c := by simpa using head
        subst same
        rcases number_head read with ⟨digit, -⟩ | ⟨rfl, -⟩
        · by_contra space
          simp only [isSpace, Bool.not_eq_false, Bool.or_eq_true, beq_iff_eq] at space
          rcases space with ((rfl | rfl) | rfl) | rfl <;> exact absurd digit (by decide)
        · decide
  cases v with
  | null => simp [Scalar.dumps, isSpace]
  | int i => exact numeralHead (number_int i)
  | float x => exact numeralHead x.reads
  | str s => simp [Scalar.dumps, isSpace]

theorem members_space (item : List Char → Option (Value × List Char)) (n : Nat) (cs : List Char) :
    members item n (' ' :: cs) = members item n cs := by
  cases n with
  | zero => rfl
  | succ n => simp [members, skip, isSpace]

theorem members_dumpsMembers (item : List Char → Option (Value × List Char)) (record : Record)
    (nonempty : record ≠ [])
    (reads : ∀ member ∈ record, ∀ rest, Ends rest →
      item (member.2.dumps ++ rest) = some (member.2.value, rest))
    {n : Nat} (fuel : (dumpsMembers record).length ≤ n) (rest : List Char) :
    members item n (dumpsMembers record ++ '}' :: rest) = some (decoded record, rest) := by
  induction record generalizing n with
  | nil => exact absurd rfl nonempty
  | cons member tail ih =>
      obtain ⟨key, v⟩ := member
      have keyLength := length_units_le_escape (ofText key)
      cases tail with
      | nil =>
          simp only [dumpsMembers, dumpsMember, List.length_cons, List.length_append] at fuel
          obtain ⟨n, rfl⟩ : ∃ k, n = k + 1 := ⟨n - 1, by omega⟩
          have scanned := scan_escape (ofText key) (':' :: ' ' :: (v.dumps ++ '}' :: rest))
            (show (units (ofText key)).length < n by omega)
          have read := reads (key, v) List.mem_cons_self ('}' :: rest) fun c head => by
            have : '}' = c := by simpa using head
            subst this; rfl
          simp [dumpsMembers, dumpsMember, members, skip, isSpace, scanned, v.dumps_head, read,
            decoded, joined_units]
      | cons next tail =>
          simp only [dumpsMembers, dumpsMember, List.length_cons, List.length_append] at fuel
          obtain ⟨n, rfl⟩ : ∃ k, n = k + 1 := ⟨n - 1, by omega⟩
          have after := ih (by simp) (fun m mem => reads m (List.mem_cons_of_mem _ mem))
            (show (dumpsMembers (next :: tail)).length ≤ n by omega)
          have scanned := scan_escape (ofText key)
            (':' :: ' ' :: (v.dumps ++ ',' :: ' ' :: (dumpsMembers (next :: tail) ++ '}' :: rest)))
            (show (units (ofText key)).length < n by omega)
          have read := reads (key, v) List.mem_cons_self
            (',' :: ' ' :: (dumpsMembers (next :: tail) ++ '}' :: rest)) fun c head => by
              have : ',' = c := by simpa using head
              subst this; rfl
          simp [dumpsMembers, dumpsMember, members, skip, isSpace, scanned, v.dumps_head, read, members_space,
            after, decoded, joined_units]

theorem length_dumps_le {record : Record} {member : List Char × Scalar} (mem : member ∈ record) :
    member.2.dumps.length ≤ (dumpsMembers record).length := by
  induction record with
  | nil => simp at mem
  | cons head tail ih =>
      cases tail with
      | nil =>
          rw [List.mem_singleton.1 mem]
          simp only [dumpsMembers, dumpsMember, List.length_cons, List.length_append]
          omega
      | cons next tail =>
          simp only [dumpsMembers, dumpsMember, List.length_cons, List.length_append]
          rcases List.mem_cons.1 mem with rfl | later
          · omega
          · have := ih later
            omega

theorem value_dumps (record : Record) {n : Nat} (fuel : (dumps record).length ≤ n)
    (rest : List Char) : value (n + 1) (dumps record ++ rest) = some (.obj (decoded record), rest) := by
  have bound : (dumpsMembers record).length + 2 ≤ n := by
    simp only [dumps, List.length_cons, List.length_append, List.length_nil] at fuel
    omega
  cases record with
  | nil =>
      simp [dumps, dumpsMembers, value, object, skip, isSpace, decoded]
  | cons member tail =>
      obtain ⟨n, rfl⟩ : ∃ k, n = k + 1 := ⟨n - 1, by omega⟩
      have whole := members_dumpsMembers (value (n + 1)) (member :: tail) (by simp)
        (fun m mem rest ends => value_scalar m.2 (by
          have := length_dumps_le mem
          omega) rest ends)
        (show (dumpsMembers (member :: tail)).length ≤ n + 1 by omega) rest
      have opening : ∀ cs : List Char, ∃ body, dumpsMembers (member :: tail) ++ cs = '"' :: body := by
        intro cs
        cases tail <;> exact ⟨_, by simp [dumpsMembers, dumpsMember]; rfl⟩
      obtain ⟨body, starts⟩ := opening ('}' :: rest)
      have notClose : object (value (n + 1)) (n + 1) (dumpsMembers (member :: tail) ++ '}' :: rest) =
          members (value (n + 1)) (n + 1) (dumpsMembers (member :: tail) ++ '}' :: rest) := by
        rw [starts]
        simp [object, skip, isSpace]
      simp [dumps, value, notClose, whole]

/-- **Decoding an encoded record gives its members back.** -/
theorem loads_dumps (record : Record) : loads (dumps record) = some (.obj (decoded record)) := by
  have read := value_dumps record le_rfl []
  rw [List.append_nil] at read
  have start : skip (dumps record) = dumps record := by simp [dumps, skip, isSpace]
  simp [loads, start, read, skip]

/-- **A torn record does not decode**: no proper prefix of an encoded record,
the empty text included, is a JSON text. -/
theorem loads_proper_prefix {record : Record} {text more : List Char}
    (whole : text ++ more = dumps record) (torn : more ≠ []) : loads text = none := by
  cases text with
  | nil => simp [loads, skip, value]
  | cons c body =>
      have brace : c = '{' := by
        simp only [dumps, List.cons_append, List.cons.injEq] at whole
        exact whole.1
      subst brace
      have start : skip ('{' :: body) = '{' :: body := by simp [skip, isSpace]
      by_contra decodes
      simp only [loads, start] at decodes
      split at decodes
      · rename_i v rest read
        -- the object the prefix decodes to is also what the whole record starts with
        have sameObject : ∃ ms, v = .obj ms ∧
            object (value (body.length + 1)) (body.length + 1) body = some (ms, rest) := by
          simp only [value, List.length_cons, if_true, show ('{' : Char) ≠ '"' by decide, if_false] at read
          obtain ⟨⟨ms, tail⟩, found, same⟩ := Option.map_eq_some_iff.1 read
          cases same
          exact ⟨ms, rfl, found⟩
        obtain ⟨ms, rfl, found⟩ := sameObject
        obtain ⟨n, bound⟩ : ∃ n, n = (dumps record).length := ⟨_, rfl⟩
        have length : body.length + 1 ≤ n := by
          rw [bound, ← whole]
          simp
        have extended := object_extends (value_extends length) (value_nil _) length _ _ _ more found
          trivial
        have read' := value_dumps record (le_of_eq bound.symm) []
        rw [List.append_nil, ← whole, List.cons_append] at read'
        simp only [value, if_true, show ('{' : Char) ≠ '"' by decide, if_false, extended,
          Option.map_some, Option.some.injEq, Prod.mk.injEq] at read'
        exact torn (List.append_eq_nil_iff.1 read'.2).2
      · exact decodes rfl

/-! ## Encoded text is printable -/

theorem Scalar.dumps_printable {v : Scalar} (notFloat : ∀ x, v ≠ .float x) {c : Char}
    (mem : c ∈ v.dumps) : 32 ≤ c.toNat := by
  have digits : ∀ {n : Nat}, c ∈ chars n → 32 ≤ c.toNat := by
    intro n mem
    have digit := chars_isDigit mem
    simp only [Char.isDigit, Bool.and_eq_true, decide_eq_true_eq] at digit
    have low : (48 : UInt32).toNat ≤ c.val.toNat := UInt32.le_iff_toNat_le.1 digit.1
    change 32 ≤ c.val.toNat
    exact le_trans (by decide) low
  cases v with
  | null =>
      simp only [Scalar.dumps, List.mem_cons, List.not_mem_nil, or_false] at mem
      rcases mem with rfl | rfl | rfl | rfl <;> decide
  | int i =>
      cases i with
      | ofNat n => exact digits mem
      | negSucc n =>
          rcases List.mem_cons.1 mem with rfl | mem
          · decide
          · exact digits mem
  | float x => exact absurd rfl (notFloat x)
  | str s =>
      simp only [Scalar.dumps, List.mem_cons, List.mem_append, List.not_mem_nil, or_false] at mem
      rcases mem with rfl | mem | rfl
      · decide
      · exact escape_printable mem
      · decide

/-- A record without floats is encoded without control characters: it is one line. -/
theorem dumps_printable {record : Record} (notFloat : ∀ member ∈ record, ∀ x, member.2 ≠ .float x)
    {c : Char} (mem : c ∈ dumps record) : 32 ≤ c.toNat := by
  have one : ∀ member ∈ record, c ∈ dumpsMember member → 32 ≤ c.toNat := by
    intro member inRecord mem
    simp only [dumpsMember, List.mem_cons, List.mem_append] at mem
    rcases mem with rfl | mem | rfl | rfl | rfl | mem
    · decide
    · exact escape_printable mem
    · decide
    · decide
    · decide
    · exact Scalar.dumps_printable (notFloat member inRecord) mem
  have body : c ∈ dumpsMembers record → 32 ≤ c.toNat := by
    clear mem
    induction record with
    | nil => simp [dumpsMembers]
    | cons member tail ih =>
        cases tail with
        | nil => exact one member List.mem_cons_self
        | cons next tail =>
            intro mem
            rw [dumpsMembers] at mem
            simp only [List.mem_append, List.mem_cons] at mem
            rcases mem with mem | rfl | rfl | mem
            · exact one member List.mem_cons_self mem
            · decide
            · decide
            · exact ih (fun m inTail => notFloat m (List.mem_cons_of_mem _ inTail))
                (fun m inTail => one m (List.mem_cons_of_mem _ inTail)) mem
  simp only [dumps, List.mem_cons, List.mem_append, List.not_mem_nil, or_false] at mem
  rcases mem with rfl | mem | rfl
  · decide
  · exact body mem
  · decide

end KubeRayBatch.Theory.Json
