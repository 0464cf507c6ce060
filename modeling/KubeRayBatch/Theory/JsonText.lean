/-
# Theory.JsonText -- encoding nested JSON values, in any layout

A `Layout` is what encoders of one value differ in: the white space after a comma and
after a colon, and how a character of a string is escaped.  `spaced` is the layout of a
plain `dumps`, which leaves nothing but printable ASCII; `compact` is that of a web
framework, which writes every character it may as it is.

* `loads_encode`: whatever the layout, decoding an encoded value gives it back;
* `encode_printable`: the text of the spaced layout is printable ASCII, so it is one line
  under any convention for the end of a line;
* `dumps_eq_encode`: the encoder of flat records is the spaced layout.
-/
import KubeRayBatch.Theory.Json

namespace KubeRayBatch.Theory.Json

set_option autoImplicit false

open Decimal JsonString Str

/-! ## Layouts -/

structure Layout where
  /-- After a comma. -/
  gap : List Char
  /-- After a colon. -/
  indent : List Char
  escape : CodePoint → List Char
  /-- What is read where a code point was written. -/
  units : CodePoint → Str
  gap_space : ∀ c ∈ gap, isSpace c = true
  indent_space : ∀ c ∈ indent, isSpace c = true
  escapes : JsonString.Reads escape units
  escapes_long : ∀ c, (units c).length ≤ (escape c).length
  joins : ∀ s : Str, joined (s.flatMap units) = joined s

/-- Only what must be escaped is escaped. -/
def escapeControl : CodePoint → List Char
  | .scalar c =>
      match shortEscape c with
      | some e => ['\\', e]
      | none => if c.toNat < 32 then unicodeEscape c.toNat else [c]
  | .lone n => unicodeEscape (0xd800 + n.val)

theorem scanItem_escapeControl (c : CodePoint) (rest : List Char) :
    scanItem (escapeControl c ++ rest) = some (some c, rest) := by
  cases c with
  | lone n => exact scanItem_lone n rest
  | scalar c =>
      rw [escapeControl]
      split
      · rename_i e short
        obtain ⟨notU, back⟩ := shortUnescape_shortEscape short
        simp [scanItem, notU, back]
      · rename_i long
        have notQuote : c ≠ '"' := by rintro rfl; simp [shortEscape] at long
        have notBackslash : c ≠ '\\' := by rintro rfl; simp [shortEscape] at long
        split_ifs with control
        · rw [scanItem_unicodeEscape (by omega), ofUnit_scalar]
        · simp [scanItem, control, notQuote, notBackslash]

namespace Layout

/-- `json.dumps(value)` -/
def spaced : Layout where
  gap := [' ']
  indent := [' ']
  escape := escapePoint
  units := unitsOf
  gap_space := by simp [isSpace]
  indent_space := by simp [isSpace]
  escapes := escapePoint_reads
  escapes_long := length_unitsOf_le
  joins := joined_units

/-- `json.dumps(value, ensure_ascii=False, separators=(",", ":"))` -/
def compact : Layout where
  gap := []
  indent := []
  escape := escapeControl
  units c := [c]
  gap_space := by simp
  indent_space := by simp
  escapes c n rest := scan_one (scanItem_escapeControl c rest) n
  escapes_long c := by
    have scanned := scanItem_escapeControl c []
    cases written : escapeControl c with
    | nil =>
        rw [written] at scanned
        cases scanned
    | cons d ds => simp
  joins s := by rw [List.flatMap_singleton']

def string (L : Layout) (s : Str) : List Char := '"' :: (s.flatMap L.escape ++ ['"'])

/-- The parts of an array or of an object, separated. -/
def join (L : Layout) : List (List Char) → List Char
  | [] => []
  | [part] => part
  | part :: next :: rest => part ++ ',' :: (L.gap ++ L.join (next :: rest))

end Layout

/-! ## Encoding -/

mutual
def encode (L : Layout) : Value → List Char
  | .null => ['n', 'u', 'l', 'l']
  | .bool true => ['t', 'r', 'u', 'e']
  | .bool false => ['f', 'a', 'l', 's', 'e']
  | .int i => Scalar.dumps (.int i)
  | .float lexeme => lexeme
  | .str s => L.string s
  | .arr vs => '[' :: (L.join (encodeItems L vs) ++ [']'])
  | .obj ms => '{' :: (L.join (encodeMembers L ms) ++ ['}'])
def encodeItems (L : Layout) : List Value → List (List Char)
  | [] => []
  | v :: vs => encode L v :: encodeItems L vs
def encodeMembers (L : Layout) : List (Str × Value) → List (List Char)
  | [] => []
  | (key, v) :: ms => (L.string key ++ ':' :: (L.indent ++ encode L v)) :: encodeMembers L ms
end

/-- The numerals of a value are numerals, and its strings have no halves to join. -/
inductive Value.Proper : Value → Prop where
  | null : Value.null.Proper
  | bool (b : Bool) : (Value.bool b).Proper
  | int (i : Int) : (Value.int i).Proper
  | float (x : Float) : (Value.float x.lexeme).Proper
  | str {s : Str} (whole : joined s = s) : (Value.str s).Proper
  | arr {vs : List Value} (items : ∀ v ∈ vs, v.Proper) : (Value.arr vs).Proper
  | obj {ms : List (Str × Value)} (keys : ∀ m ∈ ms, joined m.1 = m.1)
      (members : ∀ m ∈ ms, m.2.Proper) : (Value.obj ms).Proper

/-! ## Decoding what was encoded -/

theorem skip_spaces {spaces : List Char} (space : ∀ c ∈ spaces, isSpace c = true)
    (rest : List Char) : skip (spaces ++ rest) = skip rest := by
  induction spaces with
  | nil => rfl
  | cons c spaces ih =>
      rw [List.cons_append, skip, if_pos (space c List.mem_cons_self),
        ih fun d mem => space d (List.mem_cons_of_mem c mem)]

/-- The separators end a numeral. -/
theorem ends_cons {c : Char} (final : continues c = false) (rest : List Char) : Ends (c :: rest) := by
  intro d head
  have same : c = d := by simpa using head
  exact same ▸ final

section Decode

variable (L : Layout)

theorem length_le_string (s : Str) : (s.flatMap L.units).length + 2 ≤ (L.string s).length := by
  have := length_flatMap_le L.escapes_long s
  simp only [Layout.string, List.length_cons, List.length_append, List.length_nil]
  omega

theorem value_string {s : Str} (whole : joined s = s) (rest : List Char) {n : Nat}
    (fuel : (L.string s).length ≤ n) : value (n + 1) (L.string s ++ rest) = some (.str s, rest) := by
  have long := length_le_string L s
  simp [Layout.string, value,
    scan_flatMap L.escapes s rest (by omega : (s.flatMap L.units).length < n), L.joins, whole]

/-- Decoding a part, whatever follows it. -/
def Reads (item : List Char → Option (Value × List Char)) (part : List Char) (v : Value) : Prop :=
  ∀ rest, Ends rest → item (part ++ rest) = some (v, rest)

/-- The first character of an encoded value is no white space. -/
theorem encode_head {v : Value} (proper : v.Proper) (rest : List Char) :
    skip (encode L v ++ rest) = encode L v ++ rest := by
  cases proper with
  | null | str | arr | obj => simp [encode, Layout.string, skip, isSpace]
  | bool b => cases b <;> simp [encode, skip, isSpace]
  | int i => exact Scalar.dumps_head (.int i) rest
  | float x => exact Scalar.dumps_head (.float x) rest

theorem items_join (item : List Char → Option (Value × List Char)) {vs : List Value}
    (nonempty : vs ≠ []) (proper : ∀ v ∈ vs, v.Proper) (reads : ∀ v ∈ vs, Reads item (encode L v) v)
    {n : Nat} (fuel : vs.length ≤ n) (rest : List Char) :
    items item n (L.join (encodeItems L vs) ++ ']' :: rest) = some (vs, rest) := by
  induction vs generalizing n with
  | nil => exact absurd rfl nonempty
  | cons v vs ih =>
      obtain ⟨n, rfl⟩ : ∃ k, n = k + 1 := ⟨n - 1, by simp at fuel; omega⟩
      have first := reads v List.mem_cons_self
      have head := fun more => encode_head L (proper v List.mem_cons_self) more
      cases vs with
      | nil =>
          simp only [encodeItems, Layout.join, items, head,
            first _ (ends_cons (by decide : continues ']' = false) rest)]
          simp [skip, isSpace]
      | cons w ws =>
          have later := ih (by simp) (fun u mem => proper u (List.mem_cons_of_mem v mem))
            (fun u mem => reads u (List.mem_cons_of_mem v mem)) (n := n) (by simpa using fuel)
          have gap : items item n (L.gap ++ (L.join (encodeItems L (w :: ws)) ++ ']' :: rest)) =
              some (w :: ws, rest) := by
            cases n with
            | zero => simp at fuel
            | succ n =>
                rw [items, skip_spaces L.gap_space]
                exact later
          simp only [encodeItems, Layout.join, items, List.append_assoc, List.cons_append, head,
            first _ (ends_cons (by decide : continues ',' = false) _)]
          simp only [encodeItems] at gap
          simp [skip, isSpace, gap]

theorem members_join (item : List Char → Option (Value × List Char))
    {ms : List (Str × Value)} (nonempty : ms ≠ []) (keys : ∀ m ∈ ms, joined m.1 = m.1)
    (proper : ∀ m ∈ ms, m.2.Proper)
    (reads : ∀ m ∈ ms, Reads item (encode L m.2) m.2) {n : Nat}
    (fuel : (L.join (encodeMembers L ms)).length ≤ n) (rest : List Char) :
    members item n (L.join (encodeMembers L ms) ++ '}' :: rest) = some (ms, rest) := by
  induction ms generalizing n with
  | nil => exact absurd rfl nonempty
  | cons m ms ih =>
      obtain ⟨key, v⟩ := m
      have long := length_le_string L key
      have whole : joined key = key := keys (key, v) List.mem_cons_self
      have first := reads (key, v) List.mem_cons_self
      have head := fun more => encode_head L (proper (key, v) List.mem_cons_self) more
      cases ms with
      | nil =>
          simp only [encodeMembers, Layout.join, List.length_append, List.length_cons] at fuel
          obtain ⟨n, rfl⟩ : ∃ k, n = k + 1 := ⟨n - 1, by omega⟩
          have scanned := scan_flatMap L.escapes key (':' :: (L.indent ++ (encode L v ++ '}' :: rest)))
            (by omega : (key.flatMap L.units).length < n)
          simp only [encodeMembers, Layout.join, Layout.string, List.cons_append, List.append_assoc,
            List.nil_append, members, skip, isSpace] at scanned ⊢
          simp [scanned, skip, isSpace, skip_spaces L.indent_space, head, L.joins, whole,
            first _ (ends_cons (by decide : continues '}' = false) rest)]
      | cons next ms =>
          simp only [encodeMembers, Layout.join, List.length_append, List.length_cons] at fuel
          obtain ⟨n, rfl⟩ : ∃ k, n = k + 1 := ⟨n - 1, by omega⟩
          have later := ih (by simp) (fun u mem => keys u (List.mem_cons_of_mem _ mem))
            (fun u mem => proper u (List.mem_cons_of_mem _ mem))
            (fun u mem => reads u (List.mem_cons_of_mem _ mem)) (n := n) (by
              simp only [encodeMembers]
              omega)
          have gap : members item n (L.gap ++ (L.join (encodeMembers L (next :: ms)) ++ '}' :: rest)) =
              some (next :: ms, rest) := by
            cases n with
            | zero => omega
            | succ n =>
                rw [members, skip_spaces L.gap_space]
                exact later
          have scanned := scan_flatMap L.escapes key (':' :: (L.indent ++ (encode L v ++
            ',' :: (L.gap ++ (L.join (encodeMembers L (next :: ms)) ++ '}' :: rest)))))
            (by omega : (key.flatMap L.units).length < n)
          simp only [encodeMembers, Layout.join, Layout.string, List.cons_append, List.append_assoc,
            List.nil_append, members, skip, isSpace] at scanned gap ⊢
          simp [scanned, skip, isSpace, skip_spaces L.indent_space, head, gap, L.joins, whole,
            first _ (ends_cons (by decide : continues ',' = false) _)]

theorem length_le_join {parts : List (List Char)} {part : List Char} (mem : part ∈ parts) :
    part.length ≤ (L.join parts).length := by
  induction parts with
  | nil => cases mem
  | cons head tail ih =>
      cases tail with
      | nil => rw [List.mem_singleton.1 mem, Layout.join]
      | cons next tail =>
          simp only [Layout.join, List.length_append, List.length_cons]
          rcases List.mem_cons.1 mem with rfl | later
          · omega
          · have := ih later
            omega

/-- There is a comma between two parts. -/
theorem count_le_join (parts : List (List Char)) : parts.length ≤ (L.join parts).length + 1 := by
  induction parts with
  | nil => simp
  | cons head tail ih =>
      cases tail with
      | nil => simp
      | cons next tail =>
          simp only [Layout.join, List.length_append, List.length_cons] at ih ⊢
          omega

theorem encodeItems_eq_map (vs : List Value) : encodeItems L vs = vs.map (encode L) := by
  induction vs with
  | nil => rfl
  | cons v vs ih => rw [encodeItems, ih, List.map_cons]

/-- The text of a member. -/
def encodeMember (m : Str × Value) : List Char :=
  L.string m.1 ++ ':' :: (L.indent ++ encode L m.2)

theorem encodeMembers_eq_map (ms : List (Str × Value)) :
    encodeMembers L ms = ms.map (encodeMember L) := by
  induction ms with
  | nil => rfl
  | cons m ms ih => rw [encodeMembers, ih, List.map_cons, encodeMember]

/-- Items that are read are not the end of an empty array. -/
theorem array_of_items {m n : Nat} {cs rest : List Char} {vs : List Value}
    (listed : items (value m) n cs = some (vs, rest)) : array (value m) n cs = some (vs, rest) := by
  have noClose : ∀ more, value m (']' :: more) = none := by
    intro more
    cases m <;> simp [value, number, unsigned, integerPart]
  unfold array
  split
  · rename_i tail atClose
    cases n with
    | zero => simp [items] at listed
    | succ n => simp [items, atClose, noClose] at listed
  · exact listed

theorem object_of_members {item : List Char → Option (Value × List Char)} {n : Nat}
    {cs rest : List Char} {ms : List (Str × Value)}
    (listed : members item n cs = some (ms, rest)) : object item n cs = some (ms, rest) := by
  unfold object
  split
  · rename_i tail atClose
    cases n with
    | zero => simp [members] at listed
    | succ n => simp [members, atClose] at listed
  · exact listed

/-- **Whatever follows**, an encoded value is decoded first. -/
theorem value_encode {v : Value} (proper : v.Proper) {n : Nat} (fuel : (encode L v).length ≤ n)
    (rest : List Char) (ends : Ends rest) :
    value (n + 1) (encode L v ++ rest) = some (v, rest) := by
  induction proper generalizing n rest with
  | null => simp [encode, value, literal]
  | bool b => cases b <;> simp [encode, value, literal]
  | int i => exact value_scalar (.int i) (by simpa only [encode] using fuel) rest ends
  | float x =>
      rw [encode] at fuel ⊢
      exact value_scalar (.float x) fuel rest ends
  | str whole => exact value_string L whole rest fuel
  | @arr vs proper ih =>
      simp only [encode, List.length_cons, List.length_append, List.length_nil] at fuel
      obtain ⟨n, rfl⟩ : ∃ k, n = k + 1 := ⟨n - 1, by omega⟩
      have reads : ∀ v ∈ vs, Reads (value (n + 1)) (encode L v) v := by
        intro v mem more ends
        have part : encode L v ∈ encodeItems L vs := by
          rw [encodeItems_eq_map]
          exact List.mem_map_of_mem mem
        have := length_le_join L part
        exact ih v mem (by omega) more ends
      have count := count_le_join L (encodeItems L vs)
      rw [encodeItems_eq_map, List.length_map, ← encodeItems_eq_map] at count
      cases vs with
      | nil => simp [encode, encodeItems, Layout.join, value, array, skip, isSpace]
      | cons v vs =>
          have listed := array_of_items (items_join L (value (n + 1)) (by simp) proper reads
            (by omega : (v :: vs).length ≤ n + 1) rest)
          simp [encode, value, listed]
  | @obj ms keys proper ih =>
      simp only [encode, List.length_cons, List.length_append, List.length_nil] at fuel
      obtain ⟨n, rfl⟩ : ∃ k, n = k + 1 := ⟨n - 1, by omega⟩
      have reads : ∀ m ∈ ms, Reads (value (n + 1)) (encode L m.2) m.2 := by
        intro m mem more ends
        have part : encodeMember L m ∈ encodeMembers L ms := by
          rw [encodeMembers_eq_map]
          exact List.mem_map_of_mem mem
        have long := length_le_join L part
        simp only [encodeMember, List.length_append, List.length_cons] at long
        exact ih m mem (by omega) more ends
      cases ms with
      | nil => simp [encode, encodeMembers, Layout.join, value, object, skip, isSpace]
      | cons m ms =>
          have listed := object_of_members (members_join L (value (n + 1)) (by simp) keys proper reads
            (by omega : (L.join (encodeMembers L (m :: ms))).length ≤ n + 1) rest)
          simp [encode, value, listed]

/-- **Decoding an encoded value gives it back**, in any layout. -/
theorem loads_encode {v : Value} (proper : v.Proper) : loads (encode L v) = some v := by
  have read := value_encode L proper le_rfl [] fun c head => by cases head
  have head := encode_head L proper []
  rw [List.append_nil] at read head
  simp [loads, head, read, skip]

end Decode

/-! ## The spaced layout is printable ASCII -/

def graphic (c : Char) : Bool := 32 ≤ c.toNat && c.toNat ≤ 126

def Graphic (cs : List Char) : Prop := ∀ c ∈ cs, graphic c = true

theorem Graphic.append {cs ds : List Char} (left : Graphic cs) (right : Graphic ds) :
    Graphic (cs ++ ds) := fun c mem => (List.mem_append.1 mem).elim (left c) (right c)

theorem Graphic.cons {c : Char} {cs : List Char} (first : graphic c = true) (rest : Graphic cs) :
    Graphic (c :: cs) := by
  rintro d (_ | ⟨_, mem⟩)
  · exact first
  · exact rest d mem

theorem Graphic.nil : Graphic [] := fun c mem => by cases mem

theorem graphic_of_digit {c : Char} (digit : c.isDigit = true) : graphic c = true := by
  simp only [Char.isDigit, Bool.and_eq_true, decide_eq_true_eq] at digit
  have low : (48 : UInt32).toNat ≤ c.val.toNat := UInt32.le_iff_toNat_le.1 digit.1
  have high : c.val.toNat ≤ (57 : UInt32).toNat := UInt32.le_iff_toNat_le.1 digit.2
  have low' : 48 ≤ c.toNat := low
  have high' : c.toNat ≤ 57 := high
  simp only [graphic, Bool.and_eq_true, decide_eq_true_eq]
  omega

section Numerals

theorem spanDigits_graphic (cs : List Char) : Graphic (spanDigits cs).1 := by
  induction cs with
  | nil => exact .nil
  | cons c cs ih =>
      unfold spanDigits
      split
      · rename_i digit
        exact .cons (graphic_of_digit digit) ih
      · exact .nil

theorem integerPart_graphic {cs digits rest : List Char}
    (read : integerPart cs = some (digits, rest)) : Graphic digits := by
  cases cs with
  | nil => cases read
  | cons c cs =>
      simp only [integerPart] at read
      split_ifs at read with zero digit
      · cases read
        exact .cons (by decide) .nil
      · cases read
        exact .cons (graphic_of_digit digit) (spanDigits_graphic cs)

theorem fractionPart_graphic (cs : List Char) : Graphic (fractionPart cs).1 := by
  unfold fractionPart
  split
  · split
    · rename_i digit
      exact .cons (by decide) (.cons (graphic_of_digit digit) (spanDigits_graphic _))
    · exact .nil
  · exact .nil

theorem exponentPart_graphic (cs : List Char) : Graphic (exponentPart cs).1 := by
  have sign : ∀ cs, Graphic (signPart cs).1 := by
    intro cs
    cases cs with
    | nil => exact .nil
    | cons s cs =>
        simp only [signPart]
        split_ifs with signed
        · refine .cons ?_ .nil
          rcases signed with rfl | rfl <;> decide
        · exact .nil
  cases cs with
  | nil => exact .nil
  | cons mark cs =>
      simp only [exponentPart]
      split_ifs with marked
      · refine .append (.cons ?_ (sign cs)) (spanDigits_graphic _)
        rcases marked.1 with rfl | rfl <;> decide
      · exact .nil

/-- The lexeme of a float is made of digits, signs, points and exponent marks. -/
theorem Float.lexeme_graphic (x : Float) : Graphic x.lexeme := by
  have parts : ∀ {cs : List Char} {p : (List Char × List Char) × List Char},
      unsigned cs = some p → Graphic p.1.1 ∧ Graphic p.1.2 := by
    intro cs p read
    obtain ⟨⟨digits, rest⟩, found, rfl⟩ := Option.map_eq_some_iff.1 read
    exact ⟨integerPart_graphic found,
      .append (fractionPart_graphic _) (exponentPart_graphic _)⟩
  have spelled : ∀ {negative : Bool} {digits tail : List Char},
      numeral negative digits tail = .float x.lexeme → Graphic digits → Graphic tail →
        Graphic x.lexeme := by
    intro negative digits tail same left right
    unfold numeral at same
    split_ifs at same with whole minus
    · rw [← Value.float.inj same]
      exact .append (.append (.cons (by decide) .nil) left) right
    · rw [← Value.float.inj same]
      exact .append (.append .nil left) right
  have read := x.reads
  cases lexeme : x.lexeme with
  | nil => exact .nil
  | cons c cs =>
      rw [← lexeme]
      rw [lexeme] at read
      simp only [number] at read
      rw [← lexeme] at read
      split_ifs at read with minus <;> obtain ⟨p, found, same⟩ := Option.map_eq_some_iff.1 read
      · exact spelled (Prod.mk.inj same).1 (parts found).1 (parts found).2
      · exact spelled (Prod.mk.inj same).1 (parts found).1 (parts found).2

end Numerals

theorem hexDigit_graphic {d : Nat} (small : d < 16) : graphic (hexDigit d) = true := by
  interval_cases d <;> decide

theorem unicodeEscape_graphic (n : Nat) : Graphic (unicodeEscape n) := by
  have digit : ∀ k, graphic (hexDigit (k % 16)) = true := fun k =>
    hexDigit_graphic (Nat.mod_lt k (by decide))
  refine .cons (by decide) (.cons (by decide) ?_)
  exact .cons (digit _) (.cons (digit _) (.cons (digit _) (.cons (digit _) .nil)))

theorem escapeChar_graphic (c : Char) : Graphic (escapeChar c) := by
  unfold escapeChar
  split
  · rename_i e short
    refine .cons (by decide) (.cons ?_ .nil)
    unfold shortEscape at short
    split_ifs at short <;> (cases short; decide)
  · split_ifs with printable
    · exact .cons (by simpa [graphic] using printable) .nil
    · exact unicodeEscape_graphic _
    · exact .append (unicodeEscape_graphic _) (unicodeEscape_graphic _)

theorem string_graphic (s : Str) : Graphic (Layout.spaced.string s) := by
  refine .cons (by decide) (.append ?_ (.cons (by decide) .nil))
  intro c mem
  obtain ⟨d, -, inEscape⟩ := List.mem_flatMap.1 mem
  cases d with
  | scalar d => exact escapeChar_graphic d c inEscape
  | lone n => exact unicodeEscape_graphic _ c inEscape

theorem join_graphic {parts : List (List Char)} (each : ∀ part ∈ parts, Graphic part) :
    Graphic (Layout.spaced.join parts) := by
  induction parts with
  | nil => exact .nil
  | cons part rest ih =>
      have first := each part List.mem_cons_self
      cases rest with
      | nil => exact first
      | cons next rest =>
          have later := ih fun other mem => each other (List.mem_cons_of_mem part mem)
          exact first.append (.cons (by decide) (.cons (by decide) later))

theorem int_graphic (i : Int) : Graphic (Scalar.dumps (.int i)) := by
  have digits : ∀ n, Graphic (chars n) := fun n c mem => graphic_of_digit (chars_isDigit mem)
  cases i with
  | ofNat n => exact digits n
  | negSucc n => exact .cons (by decide) (digits _)

/-- **The spaced layout** leaves nothing but printable ASCII. -/
theorem encode_printable {v : Value} (proper : v.Proper) : Graphic (encode .spaced v) := by
  induction proper with
  | null =>
      rw [encode]
      exact fun c mem => List.all_eq_true.1 (by decide : ['n', 'u', 'l', 'l'].all graphic) c mem
  | bool b => cases b <;> exact fun c mem => List.all_eq_true.1 (by decide) c mem
  | int i => exact int_graphic i
  | float x => exact x.lexeme_graphic
  | @str s _ => exact string_graphic s
  | @arr vs _ ih =>
      refine .cons (by decide) (.append (join_graphic ?_) (.cons (by decide) .nil))
      rw [encodeItems_eq_map]
      intro part mem
      obtain ⟨v, inItems, rfl⟩ := List.mem_map.1 mem
      exact ih v inItems
  | @obj ms _ _ ih =>
      refine .cons (by decide) (.append (join_graphic ?_) (.cons (by decide) .nil))
      rw [encodeMembers_eq_map]
      intro part mem
      obtain ⟨m, inMembers, rfl⟩ := List.mem_map.1 mem
      exact (string_graphic m.1).append (.cons (by decide) (.cons (by decide) (ih m inMembers)))

/-! ## Flat records are a case of it -/

theorem Scalar.value_proper (v : Scalar) : v.value.Proper := by
  cases v with
  | null => exact .null
  | int i => exact .int i
  | float x => exact .float x
  | str s => exact .str (joined_joined s)

theorem decoded_proper (record : Record) : (Value.obj (decoded record)).Proper := by
  refine .obj (fun m mem => ?_) fun m mem => ?_
  · obtain ⟨member, -, rfl⟩ := List.mem_map.1 mem
    exact joined_ofText member.1
  · obtain ⟨member, -, rfl⟩ := List.mem_map.1 mem
    exact member.2.value_proper

theorem Scalar.dumps_eq_encode (v : Scalar) : v.dumps = encode .spaced v.value := by
  cases v with
  | null | int | float => rfl
  | str s =>
      rw [Scalar.dumps, ← escape_joined]
      rfl

theorem dumpsMembers_eq_join (record : Record) :
    dumpsMembers record = Layout.spaced.join (encodeMembers .spaced (decoded record)) := by
  have member : ∀ m : List Char × Scalar,
      dumpsMember m = encodeMember .spaced (ofText m.1, m.2.value) := by
    intro m
    simp [dumpsMember, encodeMember, Layout.string, Layout.spaced, escape, Scalar.dumps_eq_encode]
  rw [encodeMembers_eq_map]
  induction record with
  | nil => rfl
  | cons m record ih =>
      cases record with
      | nil => exact member m
      | cons next record =>
          rw [dumpsMembers, ih, member]
          rfl

/-- The encoder of flat records is the spaced layout. -/
theorem dumps_eq_encode (record : Record) : dumps record = encode .spaced (.obj (decoded record)) := by
  rw [dumps, dumpsMembers_eq_join, encode]

end KubeRayBatch.Theory.Json
