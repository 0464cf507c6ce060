/-
# Api.RequestBody -- from a JSON body to a request

`BatchInputItem.validate` and `CreateBatchRequest.validate` are the two request models, as
they are declared: every field with its constraints, and no other field.  What a declaration
validates is pydantic's, and `Pydantic` is what the models rely on: each type and constraint
accepts and reports what its documentation says.  `Represents` and `Fault` say what that
amounts to for the two models.

* `create_request_exact`: a body is accepted exactly when it represents a request, and gives
  that request; the complaints are exactly its faults, and a body without a request has one;
  and what a client encodes for a request, in any layout, is read as that request.
-/
import KubeRayBatch.Theory.JsonText
import KubeRayBatch.Theory.Schema
import KubeRayBatch.Api.Models

namespace KubeRayBatch.Api

open Theory Theory.Schema Theory.Json
open Theory.Str (ofText)

set_option autoImplicit false

/-! ## pydantic -/

/-- The validators that the models are declared with, and what they are documented to do. -/
structure Pydantic (lax : LaxInt) where
  /-- `str = Field(min_length, max_length, pattern)` -/
  string : (c : StringConstraints) → Field Value { s : String // c.Admits s }
  /-- `int = Field(ge, le)` -/
  int : (ge le : Int) → Field Value { n : Int // ge ≤ n ∧ n ≤ le }
  /-- `list[item] = Field(min_length, max_length)` -/
  list : {α : Type} → (min max : Nat) → Field Value α →
    Field Value { l : List α // min ≤ l.length ∧ l.length ≤ max }
  /-- A field of a model, without a default. -/
  required : {α : Type} → (name : List Char) → Field Value α → Field Members α
  /-- A field of a model, with a default. -/
  optional : {α : Type} → (name : List Char) → Field Value α → (default : α) → Field Members α
  /-- Two fields of one model. -/
  both : {α β : Type} → Field Members α → Field Members β → Field Members (α × β)
  /-- A model with these fields, and `extra="forbid"`. -/
  model : {α β : Type} → (names : List Str) → Field Members α → (α → β) → Field Value β
  string_meets : ∀ c, (string c).Meets (stringSpec c)
  int_meets : ∀ ge le, (int ge le).Meets (intSpec lax ge le)
  list_meets : ∀ {α : Type} (min max : Nat) {item : Field Value α} {S : Spec Value α},
    item.Meets S → (list min max item).Meets (listSpec min max S)
  required_meets : ∀ {α : Type} (name : List Char) {f : Field Value α} {S : Spec Value α},
    f.Meets S → (required name f).Meets (requiredSpec name S)
  optional_meets : ∀ {α : Type} (name : List Char) (default : α) {f : Field Value α}
    {S : Spec Value α}, f.Meets S → (optional name f default).Meets (optionalSpec name S default)
  both_meets : ∀ {α β : Type} {f : Field Members α} {g : Field Members β} {S : Spec Members α}
    {T : Spec Members β}, f.Meets S → g.Meets T → (both f g).Meets (S.both T)
  model_meets : ∀ {α β : Type} (names : List Str) {f : Field Members α} {S : Spec Members α}
    (of : α → β), f.Meets S → (model names f of).Meets (recordSpec names (S.map of))

/-- Validators that do so. -/
def Pydantic.collecting (lax : LaxInt) : Pydantic lax where
  string := Schema.string
  int := Schema.int lax
  list := Schema.list
  required := Schema.required
  optional := Schema.optional
  both := Field.both
  model names f of := record names (f.map of)
  string_meets := Schema.string_meets
  int_meets := Schema.int_meets lax
  list_meets min max _ _ meets := Schema.list_meets min max meets
  required_meets name _ _ meets := Schema.required_meets name meets
  optional_meets name default _ _ meets := Schema.optional_meets name default meets
  both_meets left right := left.both right
  model_meets names _ _ of meets := record_meets names (meets.map of)

/-! ## The models -/

def promptConstraints : StringConstraints := ⟨1, 32000, fun _ => true⟩

def modelConstraints : StringConstraints := ⟨1, 128, modelChar⟩

def BatchInputItem.fields : List Str := [ofText "prompt".toList]

def CreateBatchRequest.fields : List Str :=
  [ofText "model".toList, ofText "input".toList, ofText "max_tokens".toList]

section Models

variable {lax : LaxInt} (P : Pydantic lax)

/-- One prompt inside a batch request; no other field is admitted. -/
def BatchInputItem.validate : Field Value BatchInputItem :=
  P.model BatchInputItem.fields (P.required "prompt".toList (P.string promptConstraints))
    fun s => ⟨s.1, s.2.1, s.2.2.1⟩

/-- The fields of a request, validated. -/
abbrev RequestParts :=
  { s : String // modelConstraints.Admits s } ×
    { l : List BatchInputItem // 1 ≤ l.length ∧ l.length ≤ 100000 } ×
      { n : Int // 1 ≤ n ∧ n ≤ 8192 }

def CreateBatchRequest.ofParts (parts : RequestParts) : CreateBatchRequest where
  model := parts.1.1
  input := parts.2.1.1
  max_tokens := parts.2.2.1.toNat
  model_min_length := parts.1.2.1
  model_max_length := parts.1.2.2.1
  model_pattern := parts.1.2.2.2
  input_min_length := parts.2.1.2.1
  input_max_length := parts.2.1.2.2
  max_tokens_ge := by have := parts.2.2.2; omega
  max_tokens_le := by have := parts.2.2.2; omega

/-- Body of `POST /v1/batches`. -/
def CreateBatchRequest.validate : Field Value CreateBatchRequest :=
  P.model CreateBatchRequest.fields
    (P.both (P.required "model".toList (P.string modelConstraints))
      (P.both (P.required "input".toList (P.list 1 100000 (BatchInputItem.validate P)))
        (P.optional "max_tokens".toList (P.int 1 8192) ⟨256, by decide⟩))) .ofParts

end Models

/-! ## What they accept -/

/-- The value of this item. -/
def RepresentsItem (v : Value) (item : BatchInputItem) : Prop :=
  ∃ ms, v = .obj ms ∧ (∀ m ∈ ms, m.1 ∈ BatchInputItem.fields) ∧
    Value.get? ms "prompt".toList = some (.str (.ofText item.prompt.toList))

structure RepresentsFields (lax : LaxInt) (ms : Members) (request : CreateBatchRequest) : Prop where
  declared : ∀ m ∈ ms, m.1 ∈ CreateBatchRequest.fields
  model : Value.get? ms "model".toList = some (.str (.ofText request.model.toList))
  input : ∃ vs, Value.get? ms "input".toList = some (.arr vs) ∧
    List.Forall₂ RepresentsItem vs request.input
  max_tokens : (Value.get? ms "max_tokens".toList = none ∧ request.max_tokens = 256) ∨
    ∃ v, Value.get? ms "max_tokens".toList = some v ∧ lax.read v = .ok request.max_tokens

/-- The body is an object with these fields. -/
def Represents (lax : LaxInt) (body : Value) (request : CreateBatchRequest) : Prop :=
  ∃ ms, body = .obj ms ∧ RepresentsFields lax ms request

/-! ## What they report -/

/-- What is wrong with an item, and where. -/
inductive ItemFault : Value → List Loc → ErrorType → Prop where
  | type {v : Value} (other : ∀ ms, v ≠ .obj ms) : ItemFault v [] .model_attributes_type
  | extra {ms : Members} {key : Str} {v : Value} (mem : (key, v) ∈ ms)
      (undeclared : key ∉ BatchInputItem.fields) : ItemFault (.obj ms) [.key key] .extra_forbidden
  | missing {ms : Members} (absent : Value.get? ms "prompt".toList = none) :
      ItemFault (.obj ms) [.key (ofText "prompt".toList)] .missing
  | prompt {ms : Members} {v : Value} {type : ErrorType}
      (found : Value.get? ms "prompt".toList = some v) (fault : StringFault promptConstraints v type) :
      ItemFault (.obj ms) [.key (ofText "prompt".toList)] type

/-- What is wrong with the list of items.  A list that is too long is not looked into. -/
inductive InputFault : Value → List Loc → ErrorType → Prop where
  | type {v : Value} (other : ∀ vs, v ≠ .arr vs) : InputFault v [] .list_type
  | too_long {vs : List Value} (long : 100000 < vs.length) : InputFault (.arr vs) [] .too_long
  | too_short : InputFault (.arr []) [] .too_short
  | item {vs : List Value} {i : Nat} {v : Value} {path : List Loc} {type : ErrorType}
      (bounded : vs.length ≤ 100000) (found : vs[i]? = some v) (fault : ItemFault v path type) :
      InputFault (.arr vs) (.index i :: path) type

/-- What is wrong with a body, and where. -/
inductive Fault (lax : LaxInt) : Value → List Loc → ErrorType → Prop where
  | type {v : Value} (other : ∀ ms, v ≠ .obj ms) : Fault lax v [] .model_attributes_type
  | extra {ms : Members} {key : Str} {v : Value} (mem : (key, v) ∈ ms)
      (undeclared : key ∉ CreateBatchRequest.fields) : Fault lax (.obj ms) [.key key] .extra_forbidden
  | missing {ms : Members} {key : List Char} (needed : key = "model".toList ∨ key = "input".toList)
      (absent : Value.get? ms key = none) : Fault lax (.obj ms) [.key (ofText key)] .missing
  | model {ms : Members} {v : Value} {type : ErrorType}
      (found : Value.get? ms "model".toList = some v) (fault : StringFault modelConstraints v type) :
      Fault lax (.obj ms) [.key (ofText "model".toList)] type
  | input {ms : Members} {v : Value} {path : List Loc} {type : ErrorType}
      (found : Value.get? ms "input".toList = some v) (fault : InputFault v path type) :
      Fault lax (.obj ms) (.key (ofText "input".toList) :: path) type
  | max_tokens {ms : Members} {v : Value} {type : ErrorType}
      (found : Value.get? ms "max_tokens".toList = some v) (fault : IntFault lax 1 8192 v type) :
      Fault lax (.obj ms) [.key (ofText "max_tokens".toList)] type

/-! ## Items -/

def BatchInputItem.spec : Spec Value BatchInputItem := ⟨RepresentsItem, ItemFault⟩

theorem BatchInputItem.validate_meets {lax : LaxInt} (P : Pydantic lax) :
    (BatchInputItem.validate P).Meets BatchInputItem.spec := by
  have meets := P.model_meets BatchInputItem.fields
    (fun s => (⟨s.1, s.2.1, s.2.2.1⟩ : BatchInputItem))
    (P.required_meets "prompt".toList (P.string_meets promptConstraints))
  refine Field.Meets.congr meets ?_ ?_
  · intro v item
    constructor
    · rintro ⟨ms, same, ⟨s, ⟨p, found, rfl⟩, rfl⟩, declared⟩
      exact ⟨ms, same, declared, found⟩
    · rintro ⟨ms, same, declared, found⟩
      have admits : promptConstraints.Admits item.prompt :=
        ⟨item.min_length, item.max_length, fun _ _ => rfl⟩
      exact ⟨ms, same, ⟨⟨item.prompt, admits⟩, ⟨_, found, rfl⟩, rfl⟩, declared⟩
  · intro v path type
    constructor
    · intro fault
      cases fault with
      | type other => exact .type other
      | extra mem undeclared => exact .extra mem undeclared
      | member fault =>
          cases fault with
          | missing absent => exact .missing absent
          | inside found fault =>
              obtain ⟨rfl, fault⟩ := fault
              exact .prompt found fault
    · intro fault
      cases fault with
      | type other => exact .type other
      | extra mem undeclared => exact .extra mem undeclared
      | missing absent => exact .member (.missing absent rfl)
      | prompt found fault => exact .member (.inside found ⟨rfl, fault⟩)

/-! ## The list of items -/

theorem inputFault_iff {v : Value} {path : List Loc} {type : ErrorType} :
    ListFault 1 100000 BatchInputItem.spec v path type ↔ InputFault v path type := by
  constructor
  · intro fault
    cases fault with
    | type other => exact .type other
    | too_long long => exact .too_long long
    | item bounded found fault => exact .item bounded found fault
    | too_short short =>
        obtain rfl := List.length_eq_zero_iff.1 (Nat.lt_one_iff.1 short)
        exact .too_short
  · intro fault
    cases fault with
    | type other => exact .type other
    | too_long long => exact .too_long long
    | item bounded found fault => exact .item bounded found fault
    | too_short => exact .too_short (by decide) (by decide) ⟨[], .nil⟩

/-! ## Requests -/

theorem CreateBatchRequest.eq_of_fields {request request' : CreateBatchRequest}
    (model : request.model = request'.model) (input : request.input = request'.input)
    (max_tokens : request.max_tokens = request'.max_tokens) : request = request' := by
  cases request
  cases request'
  cases model
  cases input
  cases max_tokens
  rfl

/-- The parts of a request. -/
def CreateBatchRequest.parts (request : CreateBatchRequest) : RequestParts :=
  ⟨⟨request.model, request.model_min_length, request.model_max_length, request.model_pattern⟩,
    ⟨request.input, request.input_min_length, request.input_max_length⟩,
    ⟨request.max_tokens, by have := request.max_tokens_ge; have := request.max_tokens_le; omega⟩⟩

theorem CreateBatchRequest.ofParts_parts (request : CreateBatchRequest) :
    ofParts request.parts = request :=
  eq_of_fields rfl rfl (Int.toNat_natCast _)

def CreateBatchRequest.spec (lax : LaxInt) : Spec Value CreateBatchRequest :=
  ⟨Represents lax, Fault lax⟩

/-- What the declaration of the model amounts to. -/
def CreateBatchRequest.declared (lax : LaxInt) : Spec Value CreateBatchRequest :=
  recordSpec CreateBatchRequest.fields
    (((requiredSpec "model".toList (stringSpec modelConstraints)).both
      ((requiredSpec "input".toList (listSpec 1 100000 BatchInputItem.spec)).both
        (optionalSpec "max_tokens".toList (intSpec lax 1 8192) ⟨256, by decide⟩))).map ofParts)

variable {lax : LaxInt}

theorem CreateBatchRequest.declared_reads (v : Value) (request : CreateBatchRequest) :
    (declared lax).reads v request ↔ Represents lax v request := by
  constructor
  · rintro ⟨ms, same, ⟨⟨s, l, n⟩, ⟨⟨m, foundModel, rfl⟩, ⟨i, foundInput, vs, rfl, items⟩, tokens⟩, rfl⟩,
      declared⟩
    refine ⟨ms, same, declared, foundModel, ⟨vs, foundInput, items⟩, ?_⟩
    have positive : ((n.1.toNat : Nat) : Int) = n.1 := Int.toNat_of_nonneg (by have := n.2; omega)
    rcases tokens with ⟨absent, rfl⟩ | ⟨v, found, reads⟩
    · exact .inl ⟨absent, rfl⟩
    · exact .inr ⟨v, found, reads.trans (congrArg Except.ok positive.symm)⟩
  · rintro ⟨ms, same, declared, foundModel, ⟨vs, foundInput, items⟩, tokens⟩
    refine ⟨ms, same, ⟨request.parts, ⟨⟨_, foundModel, rfl⟩, ⟨_, foundInput, vs, rfl, items⟩, ?_⟩,
      request.ofParts_parts⟩, declared⟩
    rcases tokens with ⟨absent, isDefault⟩ | ⟨v, found, reads⟩
    · refine .inl ⟨absent, Subtype.ext ?_⟩
      exact congrArg Int.ofNat isDefault
    · exact .inr ⟨v, found, reads⟩

theorem CreateBatchRequest.declared_fault (v : Value) (path : List Loc) (type : ErrorType) :
    (declared lax).fault v path type ↔ Fault lax v path type := by
  constructor
  · intro fault
    cases fault with
    | type other => exact .type other
    | extra mem undeclared => exact .extra mem undeclared
    | member fault =>
        rcases fault with fault | fault | fault
        · cases fault with
          | missing absent => exact .missing (.inl rfl) absent
          | inside found fault =>
              obtain ⟨rfl, fault⟩ := fault
              exact .model found fault
        · cases fault with
          | missing absent => exact .missing (.inr rfl) absent
          | inside found fault => exact .input found (inputFault_iff.1 fault)
        · cases fault with
          | missing absent need => cases need
          | inside found fault =>
              obtain ⟨rfl, fault⟩ := fault
              exact .max_tokens found fault
  · intro fault
    cases fault with
    | type other => exact .type other
    | extra mem undeclared => exact .extra mem undeclared
    | missing needed absent =>
        rcases needed with rfl | rfl
        · exact .member (.inl (.missing absent rfl))
        · exact .member (.inr (.inl (.missing absent rfl)))
    | model found fault => exact .member (.inl (.inside found ⟨rfl, fault⟩))
    | input found fault => exact .member (.inr (.inl (.inside found (inputFault_iff.2 fault))))
    | max_tokens found fault => exact .member (.inr (.inr (.inside found ⟨rfl, fault⟩)))

theorem CreateBatchRequest.validate_meets (P : Pydantic lax) :
    (CreateBatchRequest.validate P).Meets (CreateBatchRequest.spec lax) := by
  have meets := P.model_meets CreateBatchRequest.fields CreateBatchRequest.ofParts
    (P.both_meets (P.required_meets "model".toList (P.string_meets modelConstraints))
      (P.both_meets (P.required_meets "input".toList
          (P.list_meets 1 100000 (BatchInputItem.validate_meets P)))
        (P.optional_meets "max_tokens".toList ⟨256, by decide⟩ (P.int_meets 1 8192))))
  exact Field.Meets.congr meets declared_reads declared_fault

/-! ## What a client encodes -/

/-- The value that a client encodes for a request:
`\x7b"model": model, "input": [\x7b"prompt": p\x7d for p in prompts], "max_tokens": max_tokens\x7d`. -/
def CreateBatchRequest.body (request : CreateBatchRequest) : Value :=
  .obj [(ofText "model".toList, .str (.ofText request.model.toList)),
    (ofText "input".toList, .arr (request.input.map fun item => .obj (decoded item.model_dump))),
    (ofText "max_tokens".toList, .int request.max_tokens)]

theorem body_represents (request : CreateBatchRequest) : Represents lax request.body request := by
  refine ⟨_, rfl, ?_, rfl, ⟨_, rfl, ?_⟩, .inr ⟨_, rfl, rfl⟩⟩
  · simp [CreateBatchRequest.fields]
  · rw [List.forall₂_map_left_iff, List.forall₂_same]
    intro item _
    exact ⟨_, rfl, by simp [decoded, BatchInputItem.model_dump, BatchInputItem.fields],
      congrArg some (Scalar.value_text _)⟩

theorem body_proper (request : CreateBatchRequest) : request.body.Proper := by
  refine .obj ?_ ?_
  · rintro m (_ | ⟨_, _ | ⟨_, _ | ⟨_, _ | _⟩⟩⟩) <;> exact Str.joined_ofText _
  · rintro m (_ | ⟨_, _ | ⟨_, _ | ⟨_, _ | _⟩⟩⟩)
    · exact .str (Str.joined_ofText _)
    · refine .arr fun v mem => ?_
      obtain ⟨item, -, rfl⟩ := List.mem_map.1 mem
      exact decoded_proper item.model_dump
    · exact .int _

/-- **key theorem.** A body is accepted exactly when it represents a request, and gives that
request; the complaints are exactly its faults, and a body that represents no request has
one; and what a client encodes for a request, in any layout, is read as that request. -/
theorem create_request_exact (lax : LaxInt) (P : Pydantic lax) :
    (∀ (body : Value) (request : CreateBatchRequest),
        CreateBatchRequest.validate P [.key (ofText "body".toList)] body = .valid request ↔
          Represents lax body request) ∧
      (∀ (body : Value) (e : FieldError),
        e ∈ (CreateBatchRequest.validate P [.key (ofText "body".toList)] body).errors ↔
          ∃ path, e.loc = .key (ofText "body".toList) :: path ∧ Fault lax body path e.type) ∧
      (∀ body : Value, (¬∃ request, Represents lax body request) ↔
        ∃ path type, Fault lax body path type) ∧
      ∀ (layout : Layout) (request : CreateBatchRequest),
        (loads (encode layout request.body)).map
          (CreateBatchRequest.validate P [.key (ofText "body".toList)]) = some (.valid request) := by
  have meets := CreateBatchRequest.validate_meets P
  refine ⟨fun body => (meets body).accepts _, fun body => (meets body).reports _,
    meets.refuses_iff, ?_⟩
  intro layout request
  rw [loads_encode layout (body_proper request), Option.map_some]
  exact congrArg some (((meets request.body).accepts _ request).2 (body_represents request))

/-- Integers are written as integers. -/
def strictInt : LaxInt := ⟨fun _ => .error .int_type, fun _ => .error .int_type⟩

/-- A request that is sent without spaces, and a body without fields. -/
theorem create_request_exact_compact :
    (loads (encode .compact hiRequest.body)).map (CreateBatchRequest.validate (.collecting strictInt)
        [.key (ofText "body".toList)]) = some (.valid hiRequest) ∧
      (∀ name ∈ ["model".toList, "input".toList],
        ⟨[.key (ofText "body".toList), .key (ofText name)], .missing⟩ ∈
          (CreateBatchRequest.validate (.collecting strictInt) [.key (ofText "body".toList)]
            (.obj [])).errors) ∧
      ¬∃ request, Represents strictInt (.obj []) request := by
  obtain ⟨-, reports, refuses, reads⟩ := create_request_exact strictInt (.collecting strictInt)
  have missing (name : List Char) (needed : name = "model".toList ∨ name = "input".toList) :
      Fault strictInt (.obj []) [.key (ofText name)] .missing := .missing needed rfl
  refine ⟨reads .compact hiRequest, fun name needed => ?_, (refuses _).2 ⟨_, _, missing _ (.inl rfl)⟩⟩
  exact (reports _ _).2 ⟨_, rfl, missing name (by simpa using needed)⟩

end KubeRayBatch.Api
