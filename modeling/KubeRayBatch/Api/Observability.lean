/-
# Api.Observability -- the request metrics

`RequestIdMiddleware.dispatch` wraps every request.  It counts the request in one of two
places: in the `except` clause, under the literal path, or after the `finally` clause,
under the template of the matched route.  The duration is observed in the `finally`
clause, always under the template.

* `dispatch_adds`: what one request adds to the two metrics;
* `metrics_sound_iff`: over any sequence of requests the two metrics agree, and matched
  requests use one label for each route, exactly when every request that raises has a
  literal path that is its own label.
-/
import KubeRayBatch.Runtime
import Mathlib.Data.Finset.Card

namespace KubeRayBatch.Api

set_option autoImplicit false

/-! ## The middleware -/

/-- A declared route; `path` is its template. -/
structure Route where
  path : Option String

/-- What the middleware reads of a request. -/
structure Request where
  method : String
  /-- `request.url.path` -/
  path : String
  /-- The header `X-Request-ID`. -/
  request_id : Option String
  /-- `request.scope["route"]`, once the handler has run. -/
  route : Option Route

structure Response where
  status_code : Nat
  headers : List (String × String)
  deriving DecidableEq

/-- The context variables. -/
structure Context where
  request_id : String
  batch_id : String
  deriving DecidableEq

/-- The increments of the counter and the observations of the histogram, with their
labels, in their order. -/
structure Registry where
  http_requests_total : List (String × String × String)
  http_request_duration_seconds : List (String × String × Nat)
  deriving DecidableEq

/-- One request as it comes in: a fresh UUID, the time it takes, and its handler. -/
structure Exchange where
  uuid4 : String
  duration : Nat
  request : Request
  call_next : Context → Except PyException Response

/-- `headers[name] = value` -/
def setHeader (headers : List (String × String)) (name value : String) : List (String × String) :=
  headers.filter (fun header => header.1 != name) ++ [(name, value)]

/-- `getattr(route, "path", None) or literal_path` -/
def Request.path_label (request : Request) : String :=
  match request.route.bind (·.path) with
  | some path => if path = "" then request.path else path
  | none => request.path

namespace Exchange

variable (x : Exchange)

def rid : String :=
  match x.request.request_id with
  | some id => if id = "" then x.uuid4 else id
  | none => x.uuid4

/-- How the handler ends. -/
def reply : Except PyException Response := x.call_next ⟨x.rid, "-"⟩

/-- `dispatch`; the context variables are reset at its end. -/
def dispatch (registry : Registry) : Except PyException Response × Registry :=
  let method := x.request.method
  let path_label := x.request.path_label
  match x.reply with
  | .ok response =>
      (.ok { response with headers := setHeader response.headers "X-Request-ID" x.rid },
        { http_requests_total :=
            registry.http_requests_total ++ [(method, path_label, toString response.status_code)]
          http_request_duration_seconds :=
            registry.http_request_duration_seconds ++ [(method, path_label, x.duration)] })
  | .error exc =>
      let counted :=
        if exc.isinstance .exception then
          registry.http_requests_total ++ [(method, x.request.path, "500")]
        else registry.http_requests_total
      (.error exc,
        { http_requests_total := counted
          http_request_duration_seconds :=
            registry.http_request_duration_seconds ++ [(method, path_label, x.duration)] })

end Exchange

/-- The registry after a sequence of requests. -/
def serve (xs : List Exchange) (registry : Registry) : Registry :=
  xs.foldl (fun registry x => (x.dispatch registry).2) registry

def Registry.empty : Registry := ⟨[], []⟩

/-! ## What a request adds -/

namespace Exchange

variable (x : Exchange)

/-- The handler answers, or raises an `Exception`. -/
def Ends : Prop := ∀ exc, x.reply = .error exc → exc.isinstance .exception = true

/-- The path under which the request is counted. -/
def countedPath : String :=
  match x.reply with
  | .ok _ => x.request.path_label
  | .error _ => x.request.path

/-- The status under which it is counted. -/
def countedStatus : String :=
  match x.reply with
  | .ok response => toString response.status_code
  | .error _ => "500"

variable {x}

/-- **What one request adds** to the two metrics. -/
theorem dispatch_adds (ends : x.Ends) (registry : Registry) :
    (x.dispatch registry).2 =
      { http_requests_total :=
          registry.http_requests_total ++ [(x.request.method, x.countedPath, x.countedStatus)]
        http_request_duration_seconds := registry.http_request_duration_seconds ++
          [(x.request.method, x.request.path_label, x.duration)] } := by
  unfold dispatch countedPath countedStatus
  cases replied : x.reply with
  | ok response => rfl
  | error exc => simp [ends exc replied]

end Exchange

theorem serve_adds {xs : List Exchange} (ends : ∀ x ∈ xs, x.Ends) (registry : Registry) :
    serve xs registry =
      { http_requests_total := registry.http_requests_total ++
          xs.map fun x => (x.request.method, x.countedPath, x.countedStatus)
        http_request_duration_seconds := registry.http_request_duration_seconds ++
          xs.map fun x => (x.request.method, x.request.path_label, x.duration) } := by
  induction xs generalizing registry with
  | nil => simp [serve]
  | cons x xs ih =>
      have rest := ih (fun y mem => ends y (List.mem_cons_of_mem x mem)) (x.dispatch registry).2
      rw [Exchange.dispatch_adds (ends x List.mem_cons_self)] at rest
      show serve xs (x.dispatch registry).2 = _
      rw [Exchange.dispatch_adds (ends x List.mem_cons_self), rest]
      simp [List.append_assoc]

/-! ## Consistent and bounded -/

/-- The value of the counter, summed over the statuses. -/
def Registry.requests (r : Registry) (method path : String) : Nat :=
  r.http_requests_total.countP fun series => series.1 == method && series.2.1 == path

/-- The number of observations of the histogram. -/
def Registry.durations (r : Registry) (method path : String) : Nat :=
  r.http_request_duration_seconds.countP fun series => series.1 == method && series.2.1 == path

/-- The path labels that one request contributes to the two metrics. -/
def Exchange.labels (x : Exchange) : List String :=
  let added := (x.dispatch .empty).2
  added.http_requests_total.map (·.2.1) ++ added.http_request_duration_seconds.map (·.2.1)

/-- One increment and one observation under the same labels, and for a matched request
under the template of its route. -/
def Exchange.Recorded (x : Exchange) : Prop :=
  ∀ registry, ∃ path status, (x.dispatch registry).2 =
      { http_requests_total := registry.http_requests_total ++ [(x.request.method, path, status)]
        http_request_duration_seconds :=
          registry.http_request_duration_seconds ++ [(x.request.method, path, x.duration)] } ∧
    ∀ route template, x.request.route = some route → route.path = some template → path = template

/-- Requests that matched a route. -/
def matched (xs : List Exchange) : List Exchange := xs.filter fun x => x.request.route.isSome

structure MetricsSound (routes : List String) (xs : List Exchange) : Prop where
  recorded : ∀ x ∈ xs, x.Recorded
  balanced : ∀ method path,
    (serve xs .empty).requests method path = (serve xs .empty).durations method path
  bounded : ((matched xs).flatMap Exchange.labels).toFinset.card ≤ routes.length

/-- The matched route is one of the declared ones, and has a template. -/
def Request.Declared (routes : List String) (request : Request) : Prop :=
  ∀ route, request.route = some route →
    ∃ template ∈ routes, route.path = some template ∧ template ≠ ""

theorem path_label_template {routes : List String} {request : Request} {route : Route}
    (declared : request.Declared routes) (found : request.route = some route) :
    ∃ template ∈ routes, route.path = some template ∧ request.path_label = template := by
  obtain ⟨template, mem, isTemplate, nonempty⟩ := declared route found
  refine ⟨template, mem, isTemplate, ?_⟩
  simp [Request.path_label, found, isTemplate, nonempty]

/-- The handler answered, or the literal path of the request is its label. -/
def Exchange.LabelledOnce (x : Exchange) : Prop :=
  (∃ response, x.reply = .ok response) ∨ x.request.path_label = x.request.path

theorem countedPath_eq_iff (x : Exchange) :
    x.countedPath = x.request.path_label ↔ x.LabelledOnce := by
  unfold Exchange.countedPath Exchange.LabelledOnce
  cases replied : x.reply with
  | ok response => simp
  | error exc =>
      constructor
      · exact fun same => .inr same.symm
      · rintro (⟨response, isOk⟩ | same)
        · cases isOk
        · exact same.symm

theorem recorded_iff {routes : List String} {x : Exchange} (ends : x.Ends)
    (declared : x.request.Declared routes) : x.Recorded ↔ x.LabelledOnce := by
  rw [← countedPath_eq_iff]
  constructor
  · intro recorded
    obtain ⟨path, status, adds, -⟩ := recorded .empty
    rw [Exchange.dispatch_adds ends] at adds
    simp only [Registry.empty, List.nil_append, Registry.mk.injEq, List.cons.injEq, Prod.mk.injEq,
      true_and, and_true] at adds
    exact adds.1.1.trans adds.2.symm
  · intro same registry
    refine ⟨x.request.path_label, x.countedStatus, ?_, ?_⟩
    · rw [Exchange.dispatch_adds ends, same]
    · intro route template found isTemplate
      obtain ⟨template', -, isTemplate', label⟩ := path_label_template declared found
      rw [label]
      exact Option.some.inj (isTemplate'.symm.trans isTemplate)

/-- **key theorem.** The metrics are consistent and bounded exactly when every request that
raises is labelled by its literal path anyway. -/
theorem metrics_sound_iff {routes : List String} {xs : List Exchange} (ends : ∀ x ∈ xs, x.Ends)
    (declared : ∀ x ∈ xs, x.request.Declared routes) :
    MetricsSound routes xs ↔ ∀ x ∈ xs, x.LabelledOnce := by
  constructor
  · exact fun sound x mem => (recorded_iff (ends x mem) (declared x mem)).1 (sound.recorded x mem)
  intro once
  have same : ∀ x ∈ xs, x.countedPath = x.request.path_label := fun x mem =>
    (countedPath_eq_iff x).2 (once x mem)
  refine ⟨fun x mem => (recorded_iff (ends x mem) (declared x mem)).2 (once x mem), ?_, ?_⟩
  · intro method path
    rw [serve_adds ends]
    simp only [Registry.requests, Registry.durations, Registry.empty, List.nil_append, List.countP_map]
    refine List.countP_congr fun x mem => ?_
    simp [same x mem]
  · have templates : ((matched xs).flatMap Exchange.labels).toFinset ⊆ routes.toFinset := by
      intro label mem
      rw [List.mem_toFinset] at mem ⊢
      obtain ⟨x, isMatched, contributed⟩ := List.mem_flatMap.1 mem
      obtain ⟨inRun, found⟩ := List.mem_filter.1 isMatched
      obtain ⟨route, isRoute⟩ := Option.isSome_iff_exists.1 found
      obtain ⟨template, isDeclared, -, isLabel⟩ := path_label_template (declared x inRun) isRoute
      have own : label = x.request.path_label := by
        simp only [Exchange.labels, Exchange.dispatch_adds (ends x inRun), Registry.empty] at contributed
        simpa [same x inRun] using contributed
      rw [own, isLabel]
      exact isDeclared
    exact (Finset.card_le_card templates).trans (List.toFinset_card_le routes)

/-! ## A request that raises -/

def batchTemplate : String := "/v1/batches/\x7bbatch_id\x7d"

/-- A request for one batch. -/
def getBatch (reply : Except PyException Response) : Exchange where
  uuid4 := "0f0f"
  duration := 1
  request := ⟨"GET", "/v1/batches/batch_1", none, some ⟨some batchTemplate⟩⟩
  call_next := fun _ => reply

theorem getBatch_declared (reply : Except PyException Response) :
    (getBatch reply).request.Declared [batchTemplate] := by
  rintro route found
  cases found
  exact ⟨batchTemplate, List.mem_singleton_self _, rfl, by decide⟩

def batchesTemplate : String := "/v1/batches"

/-- A request to create a batch; its literal path is the template. -/
def postBatches (reply : Except PyException Response) : Exchange where
  uuid4 := "1e1e"
  duration := 2
  request := ⟨"POST", "/v1/batches", some "", some ⟨some batchesTemplate⟩⟩
  call_next := fun _ => reply

/-- A request that no route matches. -/
def getIcon : Exchange where
  uuid4 := "2d2d"
  duration := 1
  request := ⟨"GET", "/favicon.ico", some "trace", none⟩
  call_next := fun _ => .ok ⟨404, []⟩

/-- A batch is created, the next one is not since the database is down, and two are asked for. -/
def traffic : List Exchange :=
  [postBatches (.ok ⟨200, []⟩), postBatches (.error (.runtimeError "database is down")),
    getBatch (.ok ⟨200, []⟩), getIcon, getBatch (.ok ⟨404, []⟩)]

/-- Under the literal path of a route without parameters, a request that raises is counted like
the others. -/
theorem metrics_sound_traffic : MetricsSound [batchesTemplate, batchTemplate] traffic := by
  refine (metrics_sound_iff (fun x mem => ?_) fun x mem route found => ?_).2 fun x mem => ?_
  all_goals
    simp only [traffic, List.mem_cons, List.not_mem_nil, or_false] at mem
  · rcases mem with rfl | rfl | rfl | rfl | rfl <;> rintro exc replied <;> cases replied
    rfl
  · rcases mem with rfl | rfl | rfl | rfl | rfl <;> cases found
    · exact ⟨batchesTemplate, by simp, rfl, by decide⟩
    · exact ⟨batchesTemplate, by simp, rfl, by decide⟩
    · exact ⟨batchTemplate, by simp, rfl, by decide⟩
    · exact ⟨batchTemplate, by simp, rfl, by decide⟩
  · rcases mem with rfl | rfl | rfl | rfl | rfl
    · exact .inl ⟨_, rfl⟩
    · exact .inr rfl
    · exact .inl ⟨_, rfl⟩
    · exact .inl ⟨_, rfl⟩
    · exact .inl ⟨_, rfl⟩

/-- A handler that raises is counted under the path of its batch. -/
theorem exception_mislabelled :
    ¬ ∀ (routes : List String) (xs : List Exchange), (∀ x ∈ xs, x.Ends) →
      (∀ x ∈ xs, x.request.Declared routes) → MetricsSound routes xs := by
  intro sound
  have raising := sound [batchTemplate] [getBatch (.error (.runtimeError "forced"))] (fun x mem => ?_)
    fun x mem => ?_
  · have unbalanced := raising.balanced "GET" batchTemplate
    exact absurd unbalanced (by decide)
  · rw [List.mem_singleton.1 mem]
    rintro exc replied
    cases replied
    decide
  · rw [List.mem_singleton.1 mem]
    exact getBatch_declared _

end KubeRayBatch.Api
