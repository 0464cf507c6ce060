/-
# Theory.Schema -- validators of JSON values, and what they accept and report

A `Field` reads a JSON value at a location and gives what it stands for, or every complaint
about it.  A `Spec` says the same without computing: which values stand for what, and which
faults a value has at which path below it.  A field `Meets` its specification when it accepts
exactly what the specification reads and reports exactly its faults.

* `string_meets`, `int_meets`, `list_meets`, `record_meets`: the rules of the combinators;
* `required_meets`, `optional_meets`, `Field.Meets.both`: the rules of the members of an object;
* `Field.Meets.refuses_iff`: a value is refused exactly when it has a fault.
-/
import KubeRayBatch.Theory.Json
import KubeRayBatch.Theory.Validation

namespace KubeRayBatch.Theory.Schema

set_option autoImplicit false

open Json (Value)
open Str (text? ofText text?_iff)

/-! ## Complaints -/

/-- A step into a value. -/
inductive Loc where
  | key (name : Str)
  | index (i : Nat)
  deriving DecidableEq, Repr

inductive ErrorType where
  | missing
  | extra_forbidden
  | model_attributes_type
  | string_type
  | string_unicode
  | string_too_short
  | string_too_long
  | string_pattern_mismatch
  | list_type
  | too_short
  | too_long
  | int_type
  | int_from_float
  | int_parsing
  | greater_than_equal
  | less_than_equal
  deriving DecidableEq, Repr

structure FieldError where
  loc : List Loc
  type : ErrorType
  deriving DecidableEq, Repr

/-! ## Fields and their specifications -/

/-- A validator of inputs: JSON values, or the members of an object. -/
abbrev Field (ι α : Type) := List Loc → ι → Validation FieldError α

structure Spec (ι α : Type) where
  reads : ι → α → Prop
  fault : ι → List Loc → ErrorType → Prop

section Meets

variable {ι α : Type}

/-- On this value the field does what the specification says. -/
structure Field.MeetsAt (f : Field ι α) (S : Spec ι α) (v : ι) : Prop where
  accepts : ∀ loc a, f loc v = .valid a ↔ S.reads v a
  reports : ∀ loc e, e ∈ (f loc v).errors ↔ ∃ path, e.loc = loc ++ path ∧ S.fault v path e.type

def Field.Meets (f : Field ι α) (S : Spec ι α) : Prop := ∀ v, f.MeetsAt S v

/-- Specifications that agree are met together. -/
theorem Field.Meets.congr {f : Field ι α} {S T : Spec ι α} (meets : f.Meets S)
    (reads : ∀ v a, S.reads v a ↔ T.reads v a)
    (fault : ∀ v path type, S.fault v path type ↔ T.fault v path type) : f.Meets T := by
  intro v
  constructor
  · exact fun loc a => ((meets v).accepts loc a).trans (reads v a)
  · exact fun loc e => ((meets v).reports loc e).trans
      (exists_congr fun path => and_congr_right' (fault v path e.type))

/-- **A value is refused** exactly when it has a fault. -/
theorem Field.Meets.refuses_iff {f : Field ι α} {S : Spec ι α} (meets : f.Meets S)
    (v : ι) : (¬ ∃ a, S.reads v a) ↔ ∃ path type, S.fault v path type := by
  have decided : (∃ a, S.reads v a) ↔ (f [] v).errors = [] := by
    rw [Validation.errors_nil]
    exact exists_congr fun a => ((meets v).accepts [] a).symm
  rw [decided, ← ne_eq, List.ne_nil_iff_exists_cons]
  constructor
  · rintro ⟨e, more, errors⟩
    obtain ⟨path, -, fault⟩ := ((meets v).reports [] e).1 (errors ▸ List.mem_cons_self)
    exact ⟨path, e.type, fault⟩
  · rintro ⟨path, type, fault⟩
    exact List.exists_cons_of_ne_nil (List.ne_nil_of_mem
      (((meets v).reports [] ⟨path, type⟩).2 ⟨path, rfl, fault⟩))

/-- The value is refused for one reason, which is its own and not that of a part. -/
structure Refused (f : Field ι α) (S : Spec ι α) (v : ι) (type : ErrorType) : Prop where
  refuses : ∀ loc, f loc v = .invalid ⟨loc, type⟩ []
  unread : ∀ a, ¬S.reads v a
  fault : ∀ path type', S.fault v path type' ↔ path = [] ∧ type' = type

/-- The value stands for `a`. -/
structure Accepted (f : Field ι α) (S : Spec ι α) (v : ι) (a : α) : Prop where
  returns : ∀ loc, f loc v = .valid a
  reads : ∀ b, S.reads v b ↔ a = b
  faultless : ∀ path type, ¬S.fault v path type

theorem Accepted.meets {f : Field ι α} {S : Spec ι α} {v : ι} {a : α}
    (accepted : Accepted f S v a) : f.MeetsAt S v where
  accepts loc b := by rw [accepted.returns loc, accepted.reads b, Validation.valid.injEq]
  reports loc e := by
    rw [accepted.returns loc]
    constructor
    · intro mem
      cases mem
    · rintro ⟨path, -, fault⟩
      exact absurd fault (accepted.faultless path e.type)

theorem Refused.meets {f : Field ι α} {S : Spec ι α} {v : ι} {type : ErrorType}
    (refused : Refused f S v type) : f.MeetsAt S v where
  accepts loc a := by
    rw [refused.refuses loc]
    constructor
    · intro same
      cases same
    · exact fun reads => absurd reads (refused.unread a)
  reports loc e := by
    obtain ⟨eloc, etype⟩ := e
    simp only [refused.refuses loc, Validation.errors, List.mem_singleton, FieldError.mk.injEq,
      refused.fault]
    constructor
    · rintro ⟨rfl, rfl⟩
      exact ⟨[], (List.append_nil _).symm, rfl, rfl⟩
    · rintro ⟨path, rfl, rfl, rfl⟩
      exact ⟨List.append_nil _, rfl⟩

/-- The specification of a field without parts. -/
def Spec.leaf (reads : ι → α → Prop) (fault : ι → ErrorType → Prop) : Spec ι α where
  reads := reads
  fault v path type := path = [] ∧ fault v type

theorem Refused.leaf {f : Field ι α} {reads : ι → α → Prop}
    {fault : ι → ErrorType → Prop} {v : ι} {type : ErrorType}
    (refuses : ∀ loc, f loc v = .invalid ⟨loc, type⟩ []) (unread : ∀ a, ¬reads v a)
    (here : fault v type) (unique : ∀ type', fault v type' → type' = type) :
    Refused f (.leaf reads fault) v type := by
  refine ⟨refuses, unread, fun path type' => ?_⟩
  constructor
  · rintro ⟨rfl, fault'⟩
    exact ⟨rfl, unique type' fault'⟩
  · rintro ⟨rfl, rfl⟩
    exact ⟨rfl, here⟩

end Meets

/-! ## Strings -/

structure StringConstraints where
  min_length : Nat
  max_length : Nat
  /-- The characters of the pattern. -/
  pattern : Char → Bool

def StringConstraints.Admits (c : StringConstraints) (s : String) : Prop :=
  c.min_length ≤ s.length ∧ s.length ≤ c.max_length ∧ ∀ ch ∈ s.toList, c.pattern ch = true

def string (c : StringConstraints) : Field Value { s : String // c.Admits s } := fun loc v =>
  match v with
  | .str s =>
      match text? s with
      | none => .invalid ⟨loc, .string_unicode⟩ []
      | some text =>
          if long : c.max_length < text.length then .invalid ⟨loc, .string_too_long⟩ []
          else if short : text.length < c.min_length then .invalid ⟨loc, .string_too_short⟩ []
          else if pattern : text.all c.pattern = true then
            .valid ⟨String.ofList text, by simpa using Nat.le_of_not_lt short,
              by simpa using Nat.le_of_not_lt long, by simpa using pattern⟩
          else .invalid ⟨loc, .string_pattern_mismatch⟩ []
  | _ => .invalid ⟨loc, .string_type⟩ []

/-- What is wrong with a text: the first of its constraints that fails. -/
inductive TextFault (c : StringConstraints) (text : List Char) : ErrorType → Prop where
  | too_long (long : c.max_length < text.length) : TextFault c text .string_too_long
  | too_short (bounded : text.length ≤ c.max_length) (short : text.length < c.min_length) :
      TextFault c text .string_too_short
  | pattern (bounded : text.length ≤ c.max_length) (long : c.min_length ≤ text.length)
      (outside : ∃ ch ∈ text, c.pattern ch = false) : TextFault c text .string_pattern_mismatch

/-- What is wrong with a string: it is none, it is no text, or its text has a fault. -/
inductive StringFault (c : StringConstraints) : Value → ErrorType → Prop where
  | type {v : Value} (other : ∀ s, v ≠ .str s) : StringFault c v .string_type
  | unicode {s : Str} (half : text? s = none) : StringFault c (.str s) .string_unicode
  | text {text : List Char} {type : ErrorType} (fault : TextFault c text type) :
      StringFault c (.str (ofText text)) type

def stringSpec (c : StringConstraints) : Spec Value { s : String // c.Admits s } :=
  .leaf (fun v s => v = .str (ofText s.1.toList)) (StringFault c)

theorem TextFault.unique {c : StringConstraints} {text : List Char} {type type' : ErrorType}
    (fault : TextFault c text type) (fault' : TextFault c text type') : type' = type := by
  cases fault <;> cases fault' <;> first | rfl | omega

theorem TextFault.unread {c : StringConstraints} {text : List Char} {type : ErrorType}
    (fault : TextFault c text type) (s : { s : String // c.Admits s }) : text ≠ s.1.toList := by
  obtain ⟨s, short, long, pattern⟩ := s
  rintro rfl
  cases fault with
  | too_long | too_short =>
      simp only [String.length_toList] at *
      omega
  | pattern _ _ outside =>
      obtain ⟨ch, mem, no⟩ := outside
      rw [pattern ch mem] at no
      cases no

theorem StringFault.unique {c : StringConstraints} {v : Value} {type type' : ErrorType}
    (fault : StringFault c v type) (fault' : StringFault c v type') : type' = type := by
  cases fault with
  | type other =>
      cases fault' with
      | type => rfl
      | unicode | text => exact absurd rfl (other _)
  | unicode half =>
      cases fault' with
      | type other => exact absurd rfl (other _)
      | unicode => rfl
      | text =>
          rw [Str.text?_ofText] at half
          cases half
  | @text text _ fault =>
      generalize same : Value.str (ofText text) = v at fault'
      cases fault' with
      | type other => exact absurd same.symm (other _)
      | unicode half =>
          rw [← Value.str.inj same, Str.text?_ofText] at half
          cases half
      | text fault' =>
          rw [← Str.ofText_injective (Value.str.inj same)] at fault'
          exact fault.unique fault'

/-- A string with a fault stands for nothing. -/
theorem StringFault.unread {c : StringConstraints} {v : Value} {type : ErrorType}
    (fault : StringFault c v type) (s : { s : String // c.Admits s }) :
    v ≠ .str (ofText s.1.toList) := by
  cases fault with
  | type other => exact other _
  | unicode half =>
      intro same
      rw [Value.str.inj same, Str.text?_ofText] at half
      cases half
  | text fault =>
      intro same
      exact fault.unread s (Str.ofText_injective (Value.str.inj same))

theorem string_meets (c : StringConstraints) : (string c).Meets (stringSpec c) := by
  have refused : ∀ {v type}, StringFault c v type →
      (∀ loc, string c loc v = .invalid ⟨loc, type⟩ []) → (string c).MeetsAt (stringSpec c) v :=
    fun fault refuses => Refused.meets
      (.leaf refuses fault.unread fault fun _ fault' => fault.unique fault')
  intro v
  cases v with
  | null | bool | int | float | arr | obj =>
      exact refused (.type fun s same => by cases same) fun _ => rfl
  | str s =>
      cases isText : text? s with
      | none => exact refused (.unicode isText) fun loc => by simp only [string, isText]
      | some text =>
      obtain rfl := text?_iff.1 isText
      by_cases long : c.max_length < text.length
      · exact refused (.text (.too_long long)) fun loc => by simp [string, long]
      by_cases short : text.length < c.min_length
      · exact refused (.text (.too_short (Nat.le_of_not_lt long) short)) fun loc => by
          simp [string, long, short]
      by_cases pattern : text.all c.pattern = true
      · refine Accepted.meets (a := ⟨String.ofList text, ?_⟩) ⟨fun loc => ?_, ?_, ?_⟩
        · exact ⟨by simpa using short, by simpa using long, by simpa using pattern⟩
        · simp only [string, isText, long, short, pattern, dite_true, dite_false]
        · intro b
          constructor
          · intro same
            apply Subtype.ext
            change String.ofList text = b.1
            rw [Str.ofText_injective (Value.str.inj same), String.ofList_toList]
          · rintro rfl
            exact congrArg (fun text => Value.str (ofText text)) String.toList_ofList.symm
        · rintro path type ⟨-, fault⟩
          refine fault.unread ⟨String.ofList text, ?_⟩ ?_
          · exact ⟨by simpa using short, by simpa using long, by simpa using pattern⟩
          · exact congrArg (fun text => Value.str (ofText text)) String.toList_ofList.symm
      · refine refused (.text (.pattern (Nat.le_of_not_lt long) (Nat.le_of_not_lt short) ?_))
          fun loc => by simp only [string, isText, long, short, pattern, dite_false]; rfl
        simpa using pattern

/-! ## Integers -/

/-- How a lenient validator reads the values that are no integers but may stand for one. -/
structure LaxInt where
  of_float : List Char → Except ErrorType Int
  of_str : Str → Except ErrorType Int

def LaxInt.read (lax : LaxInt) : Value → Except ErrorType Int
  | .int i => .ok i
  | .bool b => .ok (if b then 1 else 0)
  | .float lexeme => lax.of_float lexeme
  | .str s => lax.of_str s
  | .null | .arr _ | .obj _ => .error .int_type

section Int

variable (lax : LaxInt) (ge le : Int)

def int : Field Value { n : Int // ge ≤ n ∧ n ≤ le } := fun loc v =>
  match lax.read v with
  | .error type => .invalid ⟨loc, type⟩ []
  | .ok n =>
      if high : n ≤ le then
        if low : ge ≤ n then .valid ⟨n, low, high⟩
        else .invalid ⟨loc, .greater_than_equal⟩ []
      else .invalid ⟨loc, .less_than_equal⟩ []

inductive IntFault : Value → ErrorType → Prop where
  | unread {v : Value} {type : ErrorType} (fails : lax.read v = .error type) : IntFault v type
  | less_than_equal {v : Value} {n : Int} (reads : lax.read v = .ok n) (high : le < n) :
      IntFault v .less_than_equal
  | greater_than_equal {v : Value} {n : Int} (reads : lax.read v = .ok n) (bounded : n ≤ le)
      (low : n < ge) : IntFault v .greater_than_equal

def intSpec : Spec Value { n : Int // ge ≤ n ∧ n ≤ le } :=
  .leaf (fun v n => lax.read v = .ok n.1) (IntFault lax ge le)

variable {lax ge le}

theorem IntFault.unique {v : Value} {type type' : ErrorType} (fault : IntFault lax ge le v type)
    (fault' : IntFault lax ge le v type') : type' = type := by
  cases fault with
  | unread fails =>
      cases fault' with
      | unread fails' => exact (Except.error.inj (fails.symm.trans fails')).symm
      | less_than_equal reads | greater_than_equal reads =>
          rw [fails] at reads
          cases reads
  | less_than_equal reads high =>
      cases fault' with
      | unread fails =>
          rw [reads] at fails
          cases fails
      | less_than_equal => rfl
      | greater_than_equal reads' =>
          have := Except.ok.inj (reads.symm.trans reads')
          omega
  | greater_than_equal reads bounded =>
      cases fault' with
      | unread fails =>
          rw [reads] at fails
          cases fails
      | greater_than_equal => rfl
      | less_than_equal reads' =>
          have := Except.ok.inj (reads.symm.trans reads')
          omega

theorem IntFault.unaccepted {v : Value} {type : ErrorType} (fault : IntFault lax ge le v type)
    (n : { n : Int // ge ≤ n ∧ n ≤ le }) : lax.read v ≠ .ok n.1 := by
  obtain ⟨n, low, high⟩ := n
  intro reads
  cases fault with
  | unread fails =>
      rw [fails] at reads
      cases reads
  | less_than_equal reads' | greater_than_equal reads' =>
      have := Except.ok.inj (reads.symm.trans reads')
      simp only at this
      omega

variable (lax ge le) in
theorem int_meets : (int lax ge le).Meets (intSpec lax ge le) := by
  have refused : ∀ {v type}, IntFault lax ge le v type →
      (∀ loc, int lax ge le loc v = .invalid ⟨loc, type⟩ []) →
      (int lax ge le).MeetsAt (intSpec lax ge le) v :=
    fun fault refuses => Refused.meets
      (.leaf refuses fault.unaccepted fault fun _ fault' => fault.unique fault')
  intro v
  cases read : lax.read v with
  | error type => exact refused (.unread read) fun loc => by simp only [int, read]
  | ok n =>
      by_cases high : n ≤ le
      · by_cases low : ge ≤ n
        · refine Accepted.meets (a := ⟨n, low, high⟩) ⟨fun loc => by simp [int, read, low, high], ?_, ?_⟩
          · intro m
            simp only [intSpec, Spec.leaf, read, Except.ok.injEq, Subtype.ext_iff]
          · rintro path type ⟨-, fault⟩
            exact fault.unaccepted ⟨n, low, high⟩ read
        · exact refused (.greater_than_equal read high (Int.not_le.1 low)) fun loc => by
            simp [int, read, low, high]
      · exact refused (.less_than_equal read (Int.not_le.1 high)) fun loc => by
          simp [int, read, high]

end Int

/-! ## Lists -/

section List

variable {α : Type} (min max : Nat) (item : Field Value α)

def parts (loc : List Loc) (vs : List Value) : Validation FieldError (List α) :=
  .all (vs.zipIdx.map fun (v, i) => item (loc ++ [.index i]) v)

theorem length_of_parts {loc : List Loc} {vs : List Value} {items : List α}
    (valid : parts item loc vs = .valid items) : items.length = vs.length := by
  have same := congrArg List.length (Validation.all_valid.1 valid)
  simpa using same.symm

/-- Too long a list is refused before its items are reported, and too short a one after. -/
def list : Field Value { l : List α // min ≤ l.length ∧ l.length ≤ max } := fun loc v =>
  match v with
  | .arr vs =>
      if long : max < vs.length then .invalid ⟨loc, .too_long⟩ []
      else
        match valid : parts item loc vs with
        | .invalid first more => .invalid first more
        | .valid items =>
            if short : items.length < min then .invalid ⟨loc, .too_short⟩ []
            else .valid ⟨items, Nat.le_of_not_lt short,
              length_of_parts item valid ▸ Nat.le_of_not_lt long⟩
  | _ => .invalid ⟨loc, .list_type⟩ []

variable (S : Spec Value α)

inductive ListFault : Value → List Loc → ErrorType → Prop where
  | type {v : Value} (other : ∀ vs, v ≠ .arr vs) : ListFault v [] .list_type
  | too_long {vs : List Value} (long : max < vs.length) : ListFault (.arr vs) [] .too_long
  | item {vs : List Value} {i : Nat} {v : Value} {path : List Loc} {type : ErrorType}
      (bounded : vs.length ≤ max) (found : vs[i]? = some v) (fault : S.fault v path type) :
      ListFault (.arr vs) (.index i :: path) type
  | too_short {vs : List Value} (short : vs.length < min) (bounded : vs.length ≤ max)
      (read : ∃ items, List.Forall₂ S.reads vs items) : ListFault (.arr vs) [] .too_short

def listSpec : Spec Value { l : List α // min ≤ l.length ∧ l.length ≤ max } where
  reads v l := ∃ vs, v = .arr vs ∧ List.Forall₂ S.reads vs l.1
  fault := ListFault min max S

variable {item S} (meets : item.Meets S)

include meets

theorem parts_valid (loc : List Loc) {vs : List Value} {items : List α} :
    parts item loc vs = .valid items ↔ List.Forall₂ S.reads vs items := by
  unfold parts
  rw [Validation.all_valid]
  have from_any : ∀ (vs : List Value) (items : List α) (n : Nat),
      (vs.zipIdx n).map (fun (v, i) => item (loc ++ [Loc.index i]) v) = items.map .valid ↔
        List.Forall₂ S.reads vs items := by
    intro vs
    induction vs with
    | nil => intro items n; cases items <;> simp
    | cons v vs ih =>
        intro items n
        cases items with
        | nil => simp
        | cons a items =>
            simp [ih items (n + 1), (meets v).accepts]
  exact from_any vs items 0

theorem parts_reports (loc : List Loc) {vs : List Value} {e : FieldError} :
    e ∈ (parts item loc vs).errors ↔ ∃ i v path, vs[i]? = some v ∧
      e.loc = loc ++ Loc.index i :: path ∧ S.fault v path e.type := by
  unfold parts
  simp only [Validation.errors_all, List.flatMap_map, List.mem_flatMap, Prod.exists,
    List.mem_zipIdx_iff_getElem?, (meets _).reports, List.append_assoc, List.singleton_append]
  constructor
  · rintro ⟨v, i, found, path, loc, fault⟩
    exact ⟨i, v, path, found, loc, fault⟩
  · rintro ⟨i, v, path, found, loc, fault⟩
    exact ⟨v, i, found, path, loc, fault⟩

/-- Items that are read have no fault. -/
theorem read_faultless {vs : List Value} {items : List α} (read : List.Forall₂ S.reads vs items)
    {i : Nat} {v : Value} (found : vs[i]? = some v) (path : List Loc) (type : ErrorType) :
    ¬S.fault v path type := by
  intro fault
  have reported : ⟨.index i :: path, type⟩ ∈ (parts item [] vs).errors :=
    (parts_reports meets []).2 ⟨i, v, path, found, rfl, fault⟩
  rw [(parts_valid meets []).2 read] at reported
  cases reported

theorem read_unique {vs : List Value} {items items' : List α} (read : List.Forall₂ S.reads vs items)
    (read' : List.Forall₂ S.reads vs items') : items = items' := by
  have valid := (parts_valid meets []).2 read
  rw [(parts_valid meets []).2 read'] at valid
  exact (Validation.valid.inj valid).symm

/-- A list that is not too long, all of whose items are read. -/
theorem list_meets_read {vs : List Value} (bounded : vs.length ≤ max) {items : List α}
    (read : List.Forall₂ S.reads vs items) :
    (list min max item).MeetsAt (listSpec min max S) (.arr vs) := by
  have length : vs.length = items.length := List.Forall₂.length_eq read
  have long : ¬max < vs.length := Nat.not_lt.2 bounded
  have valid : ∀ loc, parts item loc vs = .valid items := fun loc => (parts_valid meets loc).2 read
  have computed : ∀ loc, list min max item loc (.arr vs) =
      if short : items.length < min then .invalid ⟨loc, .too_short⟩ []
      else .valid ⟨items, Nat.le_of_not_lt short, length ▸ bounded⟩ := by
    intro loc
    simp only [list, dif_neg long]
    split
    · rename_i other
      rw [valid] at other
      cases other
    · rename_i other
      obtain rfl := Validation.valid.inj ((valid loc).symm.trans other)
      rfl
  by_cases short : items.length < min
  · have refused : Refused (list min max item) (listSpec min max S) (.arr vs) .too_short := by
      refine ⟨fun loc => by rw [computed, dif_pos short], ?_, ?_⟩
      · rintro ⟨l, low, _⟩ ⟨vs', same, read'⟩
        obtain rfl := Value.arr.inj same
        obtain rfl := read_unique meets read read'
        omega
      · intro path type
        constructor
        · intro fault
          cases fault with
          | type notList => exact absurd rfl (notList vs)
          | too_long => omega
          | item _ found fault => exact absurd fault (read_faultless meets read found _ _)
          | too_short => exact ⟨rfl, rfl⟩
        · rintro ⟨rfl, rfl⟩
          exact .too_short (by omega) bounded ⟨items, read⟩
    exact refused.meets
  · have accepted : Accepted (list min max item) (listSpec min max S) (.arr vs)
        ⟨items, Nat.le_of_not_lt short, length ▸ bounded⟩ := by
      refine ⟨fun loc => by rw [computed, dif_neg short], ?_, ?_⟩
      · intro l
        rw [Subtype.ext_iff]
        constructor
        · rintro ⟨vs', same, read'⟩
          obtain rfl := Value.arr.inj same
          exact read_unique meets read read'
        · intro same
          exact ⟨vs, rfl, same ▸ read⟩
      · intro path type fault
        cases fault with
        | type notList => exact absurd rfl (notList vs)
        | too_long => omega
        | item _ found fault => exact absurd fault (read_faultless meets read found _ _)
        | too_short => omega
    exact accepted.meets

/-- A list that is not too long, with an item that is not read. -/
theorem list_meets_unread {vs : List Value} (bounded : vs.length ≤ max)
    (unread : ¬∃ items, List.Forall₂ S.reads vs items) :
    (list min max item).MeetsAt (listSpec min max S) (.arr vs) := by
  have long : ¬max < vs.length := Nat.not_lt.2 bounded
  have computed : ∀ loc, ∃ first more, parts item loc vs = .invalid first more ∧
      list min max item loc (.arr vs) = .invalid first more := by
    intro loc
    cases result : parts item loc vs with
    | valid items => exact absurd ⟨items, (parts_valid meets _).1 result⟩ unread
    | invalid first more =>
        refine ⟨first, more, rfl, ?_⟩
        simp only [list, dif_neg long]
        split
        · rename_i other
          cases result.symm.trans other
          rfl
        · rename_i other
          cases result.symm.trans other
  constructor
  · intro loc l
    obtain ⟨first, more, -, same⟩ := computed loc
    rw [same]
    constructor
    · intro valid
      cases valid
    · rintro ⟨vs', same, read⟩
      obtain rfl := Value.arr.inj same
      exact absurd ⟨l.1, read⟩ unread
  · intro loc e
    obtain ⟨first, more, result, same⟩ := computed loc
    have reports : e ∈ (parts item loc vs).errors ↔ _ := parts_reports meets loc
    rw [result] at reports
    rw [same]
    refine reports.trans ?_
    constructor
    · rintro ⟨i, v, path, found, isLoc, fault⟩
      exact ⟨.index i :: path, isLoc, .item bounded found fault⟩
    · rintro ⟨path, isLoc, fault⟩
      generalize isType : e.type = type at fault
      cases fault with
      | type notList => exact absurd rfl (notList vs)
      | too_long => omega
      | item _ found fault => exact ⟨_, _, _, found, isLoc, isType ▸ fault⟩
      | too_short _ _ read => exact absurd read unread

theorem list_meets_bounded {vs : List Value} (bounded : vs.length ≤ max) :
    (list min max item).MeetsAt (listSpec min max S) (.arr vs) := by
  by_cases read : ∃ items, List.Forall₂ S.reads vs items
  · obtain ⟨items, read⟩ := read
    exact list_meets_read min max meets bounded read
  · exact list_meets_unread min max meets bounded read

theorem list_meets : (list min max item).Meets (listSpec min max S) := by
  intro v
  have other : (∀ vs, v ≠ .arr vs) → (∀ loc, list min max item loc v = .invalid ⟨loc, .list_type⟩ []) →
      (list min max item).MeetsAt (listSpec min max S) v := by
    intro notList refuses
    refine Refused.meets ⟨refuses, fun l ⟨vs, same, _⟩ => notList vs same, fun path type => ?_⟩
    constructor
    · intro fault
      cases fault with
      | type => exact ⟨rfl, rfl⟩
      | too_long | item | too_short => exact absurd rfl (notList _)
    · rintro ⟨rfl, rfl⟩
      exact .type notList
  cases v with
  | null | bool | int | float | str | obj => exact other (fun s same => by cases same) fun _ => rfl
  | arr vs =>
      by_cases long : max < vs.length
      · have refused : Refused (list min max item) (listSpec min max S) (.arr vs) .too_long := by
          refine ⟨fun loc => by simp [list, long], ?_, ?_⟩
          · rintro ⟨l, _, bounded⟩ ⟨vs', same, read⟩
            obtain rfl := Value.arr.inj same
            have length : vs.length = l.length := List.Forall₂.length_eq read
            omega
          · intro path type
            constructor
            · intro fault
              cases fault with
              | type notList => exact absurd rfl (notList vs)
              | too_long => exact ⟨rfl, rfl⟩
              | item bounded | too_short _ bounded => omega
            · rintro ⟨rfl, rfl⟩
              exact .too_long long
        exact refused.meets
      · exact list_meets_bounded min max meets (Nat.le_of_not_lt long)

end List

/-! ## Members of an object -/

abbrev Members := List (Str × Value)

section Parts

variable {ι α β : Type}

/-- Two validators of one input. -/
def Field.both (f : Field ι α) (g : Field ι β) : Field ι (α × β) := fun loc v => .both (f loc v) (g loc v)

def Field.map (f : Field ι α) (of : α → β) : Field ι β := fun loc v => (f loc v).map of

def Spec.both (S : Spec ι α) (T : Spec ι β) : Spec ι (α × β) where
  reads v parts := S.reads v parts.1 ∧ T.reads v parts.2
  fault v path type := S.fault v path type ∨ T.fault v path type

def Spec.map (S : Spec ι α) (of : α → β) : Spec ι β where
  reads v b := ∃ a, S.reads v a ∧ of a = b
  fault := S.fault

theorem Field.Meets.both {f : Field ι α} {g : Field ι β} {S : Spec ι α} {T : Spec ι β}
    (left : f.Meets S) (right : g.Meets T) : (f.both g).Meets (S.both T) := by
  intro v
  constructor
  · rintro loc ⟨a, b⟩
    rw [Field.both, Validation.both_valid, (left v).accepts, (right v).accepts]
    rfl
  · intro loc e
    rw [Field.both, Validation.errors_both, List.mem_append, (left v).reports, (right v).reports,
      ← exists_or]
    exact exists_congr fun path => and_or_left.symm

theorem Field.Meets.map {f : Field ι α} {S : Spec ι α} (meets : f.Meets S) (of : α → β) :
    (f.map of).Meets (S.map of) := by
  intro v
  constructor
  · intro loc b
    rw [Field.map, Validation.map_valid]
    exact exists_congr fun a => and_congr_left' ((meets v).accepts loc a)
  · intro loc e
    rw [Field.map, Validation.errors_map]
    exact (meets v).reports loc e

end Parts

section Member

variable {α : Type} (name : List Char) (f : Field Value α) (S : Spec Value α) (default : α)

/-- A member that must be there. -/
def required : Field Members α := fun loc ms =>
  match Value.get? ms name with
  | none => .invalid ⟨loc ++ [.key (ofText name)], .missing⟩ []
  | some v => f (loc ++ [.key (ofText name)]) v

/-- A member with a default. -/
def optional : Field Members α := fun loc ms =>
  match Value.get? ms name with
  | none => .valid default
  | some v => f (loc ++ [.key (ofText name)]) v

inductive MemberFault (needed : Bool) : Members → List Loc → ErrorType → Prop where
  | missing {ms : Members} (absent : Value.get? ms name = none) (need : needed = true) :
      MemberFault needed ms [.key (ofText name)] .missing
  | inside {ms : Members} {v : Value} {path : List Loc} {type : ErrorType}
      (found : Value.get? ms name = some v) (fault : S.fault v path type) :
      MemberFault needed ms (.key (ofText name) :: path) type

def requiredSpec : Spec Members α where
  reads ms a := ∃ v, Value.get? ms name = some v ∧ S.reads v a
  fault := MemberFault name S true

def optionalSpec : Spec Members α where
  reads ms a := (Value.get? ms name = none ∧ a = default) ∨
    ∃ v, Value.get? ms name = some v ∧ S.reads v a
  fault := MemberFault name S false

variable {f S}

/-- The complaints about a member that is there are those about its value. -/
theorem reports_found (meets : f.Meets S) {needed : Bool} {ms : Members} {v : Value}
    (found : Value.get? ms name = some v) (loc : List Loc) (e : FieldError) :
    e ∈ (f (loc ++ [.key (ofText name)]) v).errors ↔
      ∃ path, e.loc = loc ++ path ∧ MemberFault name S needed ms path e.type := by
  simp only [(meets v).reports, List.append_assoc, List.singleton_append]
  constructor
  · rintro ⟨path, isLoc, fault⟩
    exact ⟨_, isLoc, .inside found fault⟩
  · rintro ⟨path, isLoc, fault⟩
    generalize isType : e.type = type at fault
    cases fault with
    | missing absent => cases found.symm.trans absent
    | inside found' fault =>
        cases found.symm.trans found'
        exact ⟨_, isLoc, isType ▸ fault⟩

theorem required_meets (meets : f.Meets S) : (required name f).Meets (requiredSpec name S) := by
  intro ms
  cases found : Value.get? ms name with
  | some v =>
      constructor
      · intro loc a
        simp only [required, requiredSpec, found, Option.some.injEq, exists_eq_left']
        exact (meets v).accepts _ a
      · intro loc e
        simp only [required, found]
        exact reports_found name meets found loc e
  | none =>
      constructor
      · intro loc a
        simp [required, requiredSpec, found]
      · intro loc e
        obtain ⟨eloc, etype⟩ := e
        simp only [required, found, Validation.errors, List.mem_singleton, FieldError.mk.injEq]
        constructor
        · rintro ⟨rfl, rfl⟩
          exact ⟨_, rfl, .missing found rfl⟩
        · rintro ⟨path, rfl, fault⟩
          cases fault with
          | missing => exact ⟨rfl, rfl⟩
          | inside found' => cases found.symm.trans found'

theorem optional_meets (meets : f.Meets S) :
    (optional name f default).Meets (optionalSpec name S default) := by
  intro ms
  cases found : Value.get? ms name with
  | some v =>
      constructor
      · intro loc a
        simp only [optional, optionalSpec, found, reduceCtorEq, false_and, false_or,
          Option.some.injEq, exists_eq_left']
        exact (meets v).accepts _ a
      · intro loc e
        simp only [optional, found]
        exact reports_found name meets found loc e
  | none =>
      constructor
      · intro loc a
        simp [optional, optionalSpec, found, eq_comm]
      · intro loc e
        simp only [optional, found]
        constructor
        · intro mem
          cases mem
        · rintro ⟨path, -, fault⟩
          generalize e.type = type at fault
          cases fault with
          | missing _ need => cases need
          | inside found' => cases found.symm.trans found'

end Member

/-! ## Objects -/

section Record

variable {α : Type} (names : List Str) (f : Field Members α) (S : Spec Members α)

/-- The keys that no field is declared for, each once. -/
def extras (ms : Members) : List Str :=
  ((ms.map (·.1)).eraseDups).filter fun key => !names.contains key

def forbidden (loc : List Loc) (key : Str) : Validation FieldError Unit :=
  .invalid ⟨loc ++ [.key key], .extra_forbidden⟩ []

/-- An object with the declared members and no others. -/
def record : Field Value α := fun loc v =>
  match v with
  | .obj ms =>
      (Validation.both (f loc ms) (.all ((extras names ms).map (forbidden loc)))).map Prod.fst
  | _ => .invalid ⟨loc, .model_attributes_type⟩ []

inductive RecordFault : Value → List Loc → ErrorType → Prop where
  | type {v : Value} (other : ∀ ms, v ≠ .obj ms) : RecordFault v [] .model_attributes_type
  | member {ms : Members} {path : List Loc} {type : ErrorType} (fault : S.fault ms path type) :
      RecordFault (.obj ms) path type
  | extra {ms : Members} {key : Str} {v : Value} (mem : (key, v) ∈ ms) (undeclared : key ∉ names) :
      RecordFault (.obj ms) [.key key] .extra_forbidden

def recordSpec : Spec Value α where
  reads v a := ∃ ms, v = .obj ms ∧ S.reads ms a ∧ ∀ m ∈ ms, m.1 ∈ names
  fault := RecordFault names S

variable {names f S}

theorem mem_extras {ms : Members} {key : Str} :
    key ∈ extras names ms ↔ (∃ v, (key, v) ∈ ms) ∧ key ∉ names := by
  simp [extras, List.mem_eraseDups]

/-- Nothing is forbidden exactly when every member is declared. -/
theorem none_forbidden {ms : Members} {loc : List Loc} :
    (∃ units, Validation.all ((extras names ms).map (forbidden loc)) = .valid units) ↔
      ∀ m ∈ ms, m.1 ∈ names := by
  rw [← Validation.errors_nil, Validation.errors_all, List.flatMap_eq_nil_iff]
  constructor
  · intro none m mem
    by_contra undeclared
    have here := none _ (List.mem_map_of_mem (mem_extras.2 ⟨⟨m.2, mem⟩, undeclared⟩))
    cases here
  · intro declared x mem
    obtain ⟨key, isExtra, -⟩ := List.mem_map.1 mem
    obtain ⟨⟨v, inObject⟩, undeclared⟩ := mem_extras.1 isExtra
    exact absurd (declared _ inObject) undeclared

variable (names) in
theorem record_meets (meets : f.Meets S) : (record names f).Meets (recordSpec names S) := by
  intro v
  have other : (∀ ms, v ≠ .obj ms) →
      (∀ loc, record names f loc v = .invalid ⟨loc, .model_attributes_type⟩ []) →
      (record names f).MeetsAt (recordSpec names S) v := by
    intro notObject refuses
    refine Refused.meets ⟨refuses, fun a ⟨ms, same, _⟩ => notObject ms same, fun path type => ?_⟩
    constructor
    · intro fault
      cases fault with
      | type => exact ⟨rfl, rfl⟩
      | member | extra => exact absurd rfl (notObject _)
    · rintro ⟨rfl, rfl⟩
      exact .type notObject
  cases v with
  | null | bool | int | float | str | arr => exact other (fun s same => by cases same) fun _ => rfl
  | obj ms =>
      constructor
      · intro loc a
        simp only [record, Validation.map_valid, Validation.both_valid, Prod.exists, recordSpec,
          Value.obj.injEq, exists_eq_left', (meets ms).accepts]
        constructor
        · rintro ⟨a', units, ⟨reads, none⟩, rfl⟩
          exact ⟨reads, none_forbidden.1 ⟨units, none⟩⟩
        · rintro ⟨reads, declared⟩
          obtain ⟨units, none⟩ := none_forbidden.2 declared
          exact ⟨a, units, ⟨reads, none⟩, rfl⟩
      · intro loc e
        simp only [record, Validation.errors_map, Validation.errors_both, Validation.errors_all,
          List.mem_append, List.flatMap_map, List.mem_flatMap, (meets ms).reports]
        constructor
        · rintro (⟨path, isLoc, fault⟩ | ⟨key, isExtra, reported⟩)
          · exact ⟨path, isLoc, .member fault⟩
          · obtain ⟨⟨v, inObject⟩, undeclared⟩ := mem_extras.1 isExtra
            rw [List.mem_singleton.1 reported]
            exact ⟨_, rfl, .extra inObject undeclared⟩
        · rintro ⟨path, isLoc, fault⟩
          obtain ⟨eloc, etype⟩ := e
          cases fault with
          | type notObject => exact absurd rfl (notObject ms)
          | member fault => exact .inl ⟨path, isLoc, fault⟩
          | extra inObject undeclared =>
              obtain rfl : eloc = _ := isLoc
              exact .inr ⟨_, mem_extras.2 ⟨⟨_, inObject⟩, undeclared⟩, List.mem_singleton_self _⟩

end Record

end KubeRayBatch.Theory.Schema
