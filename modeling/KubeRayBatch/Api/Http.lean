/-
# Api.Http -- in front of the handlers

A request to one of the batch routes gets to its handler through the dependency of the router,
`require_api_key`, and through the validation of its parameters.  The routing, the header
scheme and the decoding of a body are FastAPI's; `FastAPI` is what the routes rely on.

* `require_api_key_ok`: the dependency returns for the API key, and for nothing else;
* `FastAPI.admits_asks`: who gets to a handler has presented the key, and has asked for what the
  handler is called with.
-/
import KubeRayBatch.Api.RequestBody
import KubeRayBatch.Api.Escapes

namespace KubeRayBatch.Api

open Theory Theory.Schema Cluster

set_option autoImplicit false

/-! ## Requests -/

inductive Endpoint where
  /-- `POST /v1/batches`, with its raw body. -/
  | create (body : List UInt8)
  /-- `GET /v1/batches/{batch_id}` -/
  | status (batch_id : String)
  /-- `GET /v1/batches/{batch_id}/results` -/
  | results (batch_id : String)

structure HttpRequest where
  /-- The raw headers, by their lower-case names. -/
  headers : List (String × List UInt8)
  call : Endpoint

/-- What is handed to the handlers. -/
inductive Admitted where
  | create (request : CreateBatchRequest)
  | status (batch_id : String)
  | results (batch_id : String)

/-! ## Authentication -/

/-- What a dependency raises. -/
structure HTTPException where
  status_code : Nat
  detail : String
  headers : List (String × String)

def API_KEY_HEADER_NAME : String := "X-API-Key"

def _unauthorized (detail : String) : HTTPException := ⟨401, detail, [("WWW-Authenticate", "APIKey")]⟩

/-- `hmac.compare_digest` -/
def compare_digest (actual expected : ByteArray) : Bool := actual.data.toList == expected.data.toList

theorem compare_digest_iff {actual expected : ByteArray} :
    compare_digest actual expected = true ↔ actual = expected := by
  rw [compare_digest, beq_iff_eq, Array.toList_inj]
  exact ⟨ByteArray.ext, congrArg ByteArray.data⟩

/-- The line that is logged, and the exception. -/
def require_api_key (API_KEY : String) (provided : Option String) :
    Except (String × HTTPException) Unit :=
  match provided with
  | none => .error ("auth: request rejected - missing " ++ API_KEY_HEADER_NAME ++ " header",
      _unauthorized "Missing API key")
  | some provided =>
      if provided.isEmpty then
        .error ("auth: request rejected - missing " ++ API_KEY_HEADER_NAME ++ " header",
          _unauthorized "Missing API key")
      else if compare_digest provided.toUTF8 API_KEY.toUTF8 then .ok ()
      else .error ("auth: request rejected - invalid " ++ API_KEY_HEADER_NAME,
        _unauthorized "Invalid API key")

/-- **The key that is accepted** is the API key, and an empty key is accepted from nobody. -/
theorem require_api_key_ok {API_KEY : String} {provided : Option String} :
    require_api_key API_KEY provided = .ok () ↔ provided = some API_KEY ∧ API_KEY ≠ "" := by
  unfold require_api_key
  cases provided with
  | none => simp
  | some provided =>
      by_cases empty : provided.isEmpty = true
      · rw [String.isEmpty_iff] at empty
        subst empty
        constructor
        · intro accepted
          simp at accepted
        · rintro ⟨same, notEmpty⟩
          exact absurd (Option.some.inj same).symm notEmpty
      · have notEmpty : provided ≠ "" := fun same => empty (String.isEmpty_iff.2 same)
        by_cases same : compare_digest provided.toUTF8 API_KEY.toUTF8 = true
        · have isKey : provided = API_KEY := String.toByteArray_inj.1 (compare_digest_iff.1 same)
          subst isKey
          simp only [empty, same, Bool.false_eq_true, if_false, if_true, notEmpty, ne_eq,
            not_false_eq_true, and_self]
        · have notKey : provided ≠ API_KEY := fun isKey =>
            same (compare_digest_iff.2 (congrArg String.toUTF8 isKey))
          simp only [empty, same, Bool.false_eq_true, if_false, reduceCtorEq, Option.some.injEq,
            notKey, false_and]

/-- Anything else is a 401 that names the scheme. -/
theorem require_api_key_error {API_KEY : String} {provided : Option String} {line : String}
    {exc : HTTPException} (refused : require_api_key API_KEY provided = .error (line, exc)) :
    exc = _unauthorized "Missing API key" ∨ exc = _unauthorized "Invalid API key" := by
  unfold require_api_key at refused
  split at refused
  · cases refused
    exact .inl rfl
  · split_ifs at refused
    · cases refused
      exact .inl rfl
    · cases refused
      exact .inr rfl

/-! ## The framework -/

/-- What a call hands to its handler. -/
def Endpoint.Hands {lax : LaxInt} (P : Pydantic lax) (json : List UInt8 → Option Json.Value) :
    Endpoint → Admitted → Prop
  | .create raw, .create request => ∃ body, json raw = some body ∧
      CreateBatchRequest.validate P [.key (.ofText "body".toList)] body = .valid request
  | .status batch_id, .status batch_id' => batch_id' = batch_id
  | .results batch_id, .results batch_id' => batch_id' = batch_id
  | _, _ => False

/-- FastAPI, as far as the batch routes rely on it. -/
structure FastAPI (lax : LaxInt) where
  pydantic : Pydantic lax
  /-- What `APIKeyHeader(name="X-API-Key", auto_error=False)` gives to the dependency. -/
  api_key_header : HttpRequest → Option String
  /-- The decoded body. -/
  json : List UInt8 → Option Json.Value
  /-- The handler that a request gets to, if any, behind the dependency of the router. -/
  admits : (Option String → Except (String × HTTPException) Unit) → HttpRequest → Option Admitted
  /-- A handler is called once the dependency has returned and the parameters are validated. -/
  admits_only : ∀ dependency x admitted, admits dependency x = some admitted →
    dependency (api_key_header x) = .ok () ∧ x.call.Hands pydantic json admitted

section Front

variable {lax : LaxInt} (F : FastAPI lax) (API_KEY : String)

/-- The request has the API key. -/
def HttpRequest.Presents (x : HttpRequest) : Prop :=
  require_api_key API_KEY (F.api_key_header x) = .ok ()

/-- Who gets to the handlers of the batch routes. -/
def front (x : HttpRequest) : Option Admitted := F.admits (require_api_key API_KEY) x

/-- The call asks for this. -/
def Endpoint.Asks (call : Endpoint) : Admitted → Prop
  | .create request => ∃ raw body, call = .create raw ∧ F.json raw = some body ∧
      Represents lax body request
  | .status batch_id => call = .status batch_id
  | .results batch_id => call = .results batch_id

variable {F API_KEY}

/-- **Who is admitted** has the key, and has asked for it. -/
theorem FastAPI.admits_asks {x : HttpRequest} {admitted : Admitted}
    (isAdmitted : front F API_KEY x = some admitted) :
    x.Presents F API_KEY ∧ x.call.Asks F admitted := by
  obtain ⟨presents, hands⟩ := F.admits_only _ _ _ isAdmitted
  refine ⟨presents, ?_⟩
  revert hands
  cases x.call with
  | create raw =>
      cases admitted with
      | create request =>
          rintro ⟨body, decoded, valid⟩
          exact ⟨raw, body, rfl, decoded,
            ((CreateBatchRequest.validate_meets F.pydantic body).accepts _ request).1 valid⟩
      | status | results => exact False.elim
  | status batch_id =>
      cases admitted with
      | status => exact congrArg Endpoint.status ∘ Eq.symm
      | create | results => exact False.elim
  | results batch_id =>
      cases admitted with
      | results => exact congrArg Endpoint.results ∘ Eq.symm
      | create | status => exact False.elim

/-- Without the key, the dependency raises a 401 that names the scheme. -/
theorem HttpRequest.unauthorized {x : HttpRequest} (absent : ¬x.Presents F API_KEY) :
    ∃ line detail, require_api_key API_KEY (F.api_key_header x) = .error (line, _unauthorized detail) := by
  cases refused : require_api_key API_KEY (F.api_key_header x) with
  | ok => exact absurd refused absent
  | error raised =>
      obtain ⟨line, exc⟩ := raised
      rcases require_api_key_error refused with rfl | rfl <;> exact ⟨line, _, rfl⟩

/-- Without the key, nobody is admitted. -/
theorem front_absent {x : HttpRequest} (absent : ¬x.Presents F API_KEY) : front F API_KEY x = none := by
  cases admitted : front F API_KEY x with
  | none => rfl
  | some _ => exact absurd (FastAPI.admits_asks admitted).1 absent

end Front

/-! ### A framework for examples -/

/-- The text of the first key among the raw headers. -/
def firstKey (x : HttpRequest) : Option String :=
  (x.headers.find? fun header => header.1 == "x-api-key").map fun header =>
    String.ofList (header.2.map fun byte => Char.ofNat byte.toNat)

/-- An ASCII body, decoded. -/
def asciiJson (raw : List UInt8) : Option Json.Value :=
  if raw.all (· < 128) then Json.loads (raw.map fun byte => Char.ofNat byte.toNat) else none

/-- What is handed to the handler of a call. -/
def Endpoint.handed {lax : LaxInt} (P : Pydantic lax) (json : List UInt8 → Option Json.Value) :
    Endpoint → Option Admitted
  | .status batch_id => some (.status batch_id)
  | .results batch_id => some (.results batch_id)
  | .create raw =>
      match (json raw).map (CreateBatchRequest.validate P [.key (.ofText "body".toList)]) with
      | some (.valid request) => some (.create request)
      | _ => none

theorem handed_hands {lax : LaxInt} {P : Pydantic lax} {json : List UInt8 → Option Json.Value}
    {call : Endpoint} {admitted : Admitted} (handed : call.handed P json = some admitted) :
    call.Hands P json admitted := by
  cases call with
  | status | results =>
      cases handed
      rfl
  | create raw =>
      simp only [Endpoint.handed] at handed
      split at handed
      · rename_i request validated
        cases handed
        exact Option.map_eq_some_iff.1 validated
      · cases handed

/-- A framework that reads the first key, and ASCII bodies. -/
def FastAPI.plain (lax : LaxInt) : FastAPI lax where
  pydantic := .collecting lax
  api_key_header := firstKey
  json := asciiJson
  admits dependency x :=
    match dependency (firstKey x) with
    | .ok () => x.call.handed (.collecting lax) asciiJson
    | .error _ => none
  admits_only dependency x admitted isAdmitted := by
    split at isAdmitted
    · rename_i returned
      exact ⟨returned, handed_hands isAdmitted⟩
    · cases isAdmitted

section Plain

variable {lax : LaxInt} {API_KEY : String} {x : HttpRequest}

theorem plain_front (presents : x.Presents (.plain lax) API_KEY) :
    front (.plain lax) API_KEY x = x.call.handed (.collecting lax) asciiJson := by
  have returned : require_api_key API_KEY (firstKey x) = .ok () := presents
  simp only [front, FastAPI.plain, returned]

/-- The bytes of an ASCII text. -/
def asciiBytes (text : Text) : List UInt8 := text.map fun c => UInt8.ofNat c.toNat

theorem asciiJson_bytes {text : Text} (ascii : ∀ c ∈ text, c.toNat < 128) :
    asciiJson (asciiBytes text) = Json.loads text := by
  have byte (c : Char) (mem : c ∈ text) : (UInt8.ofNat c.toNat).toNat = c.toNat :=
    UInt8.toNat_ofNat_of_lt (Nat.lt_trans (ascii c mem) (by decide))
  have small : (asciiBytes text).all (· < 128) = true := by
    rw [asciiBytes, List.all_map, List.all_eq_true]
    intro c mem
    have bound := ascii c mem
    simpa [UInt8.lt_iff_toNat_lt, byte c mem] using bound
  have chars : (asciiBytes text).map (fun byte => Char.ofNat byte.toNat) = text := by
    rw [asciiBytes, List.map_map]
    refine (List.map_congr_left fun c mem => ?_).trans (List.map_id text)
    rw [Function.comp_apply, byte c mem, Char.ofNat_toNat, id]
  rw [asciiJson, if_pos small, chars]

/-- **A request that is sent in ASCII** is handed over. -/
theorem handed_body (request : CreateBatchRequest) :
    (Endpoint.create (asciiBytes (Json.encode .spaced request.body))).handed (.collecting lax) asciiJson =
      some (.create request) := by
  have ascii : ∀ c ∈ Json.encode .spaced request.body, c.toNat < 128 := fun c mem => by
    have printable := Json.encode_printable (body_proper request) c mem
    simp only [Json.graphic, Bool.and_eq_true, decide_eq_true_eq] at printable
    omega
  have valid : CreateBatchRequest.validate (.collecting lax) [.key (.ofText "body".toList)] request.body =
      .valid request :=
    ((CreateBatchRequest.validate_meets _ _).accepts _ request).2 (body_represents request)
  rw [Endpoint.handed, asciiJson_bytes ascii, Json.loads_encode .spaced (body_proper request),
    Option.map_some, valid]

end Plain

end KubeRayBatch.Api
