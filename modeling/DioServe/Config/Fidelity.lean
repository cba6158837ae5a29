/-
Which model an engine is asked for. A backend read from a configuration puts the first model of its
entry in place of the requested one, on every route and whether streamed or not, so a request gets the
model it names exactly from an entry whose first model that is.
-/
import DioServe.Config.File
import DioServe.Gateway.Forwarding

namespace Dio.Config

open Data Py Effect Gateway Scheduler

variable {K : Type}

/-! ## The model of a payload -/

/-- A backend puts its own model in place of the requested one. -/
theorem model_setModel (b : Backend) {payload : Obj} {m : String} (h : Dict.get? payload "model" = some (.str m)) :
    Dict.get? (b.setModel payload) "model" = some (.str (b.ownModel.getD m)) := by
  unfold Backend.setModel
  cases b.ownModel with
  | none => exact h
  | some own => exact Dict.get?_set_self _ _ _

theorem model_streamPayload (b : Backend) {body : Obj} {m : String} (h : Dict.get? body "model" = some (.str m)) :
    Dict.get? (streamPayload b body) "model" = some (.str (b.ownModel.getD m)) := by
  apply model_setModel b
  rw [Dict.get?_set_ne (by decide)]
  exact h

theorem model_ollamaStreamPayload (b : Backend) {body : Obj} {m : String} (h : Dict.get? body "model" = some (.str m)) :
    Dict.get? (ollamaStreamPayload b body) "model" = some (.str (b.ownModel.getD m)) := by
  have hstream : Dict.get? (Dict.set body "stream" (.bool true)) "model" = some (.str m) := by
    rw [Dict.get?_set_ne (by decide)]
    exact h
  unfold ollamaStreamPayload ollamaPayload
  dsimp only
  split
  · rw [Dict.get?_set_ne (by decide)]
    exact model_streamPayload b hstream
  · exact model_streamPayload b hstream

/-- What a backend that does not speak TGI is asked for. -/
theorem model_forward {U : Unicode} {b : Backend} (hstyle : b.apiStyle ≠ .tgiGenerate) {path : Path} {body : Obj}
    {timeout : PyFloat} {request : HttpRequest} (h : b.forward U path body timeout = .ok request) {m : String}
    (hm : Dict.get? body "model" = some (.str m)) :
    Dict.get? request.payload "model" = some (.str (b.ownModel.getD m)) := by
  obtain ⟨payload, hp, rfl⟩ := Backend.forward_eq_ok.1 h
  rw [Backend.forwardPayload, if_neg hstyle] at hp
  cases hp
  exact model_setModel b hm

/-- The model of everything sent upstream. -/
theorem model_upstream {G : DioGateway K} {e : Endpoint} {b : Backend} (hstyle : b.apiStyle ≠ .tgiGenerate) {body : Obj}
    {m : String} (hm : Dict.get? body "model" = some (.str m)) {c : Call K} (h : Upstream G e b body c) {request : HttpRequest}
    (hf : c.forwarded = some request) : Dict.get? request.payload "model" = some (.str (b.ownModel.getD m)) := by
  cases h with
  | forwarded hr =>
    cases hf
    exact model_forward hstyle hr hm
  | fellBack _ _ hr =>
    cases hf
    apply model_forward hstyle hr
    show some ((Dict.get? body "model").getD .null) = _
    rw [hm]
    rfl
  | relayed =>
    cases hf
    exact model_streamPayload b hm
  | translated =>
    cases hf
    exact model_ollamaStreamPayload b hm
  | retried =>
    cases hf
    show Dict.get? (Dict.erase _ "stream_options") "model" = _
    rw [Dict.get?_erase_ne (by decide)]
    exact model_ollamaStreamPayload b hm

/-- An endpoint hands on the model a body names. -/
theorem model_openaiBody {U : Unicode} {e : Endpoint} {body body' : Obj} (h : e.openaiBody U body = .ok body') {m : String}
    (hm : Dict.get? body "model" = some (.str m)) (hne : m ≠ "") : Dict.get? body' "model" = some (.str m) := by
  have hhint : modelHint body = .str m := by
    rw [modelHint, hm]
    exact Json.orElse_of_truthy _ (by simp [Json.truthy, hne])
  cases e with
  | chatCompletions => cases h; exact hm
  | completions => cases h; exact hm
  | ollamaChat =>
    rw [(ollamaBody_translated h).other "model" (by decide) (by decide), ← hhint]
    rfl
  | ollamaGenerate =>
    rw [(ollamaBody_translated h).other "model" (by decide) (by decide), ← hhint]
    rfl

/-! ## The model of an entry -/

/-- The first model of an entry, unless it is empty, is the model of its backend. -/
theorem ownModel_eq {names : List String} {b : Backend} (h : b.model = names.head?) (m : String) :
    b.ownModel.getD m = m ↔ ∀ first, names.head? = some first → first = "" ∨ first = m := by
  rw [Backend.ownModel, h]
  cases names with
  | nil => simp
  | cons first rest =>
    by_cases hempty : first = ""
    · simp [Option.filter_some, hempty]
    · simp [Option.filter_some, hempty]

section Handler

variable [Field K] [LinearOrder K] [FloorRing K]

/-- Whatever a request that names a model sends upstream, it is for a backend read from an entry of the
configuration, and unless that speaks TGI it asks for the model named exactly when the entry lists no
other model first. -/
theorem forwarded_model_iff (L : Loader) {data : Json} {top : Topology} (hload : loadTopology L data = .ok top)
    (G : DioGateway K) (hpool : G.pool = .ofList top.backends) (e : Endpoint) {body : Obj} {m : String}
    (hm : Dict.get? body "model" = some (.str m)) (hne : m ≠ "") {t : List (Event (sig K))} {x : Except Exn Unit}
    (h : (serve (e.handle G body)).Exec t x) {c : Call K} {r : c.Res} (hc : ⟨c, r⟩ ∈ t) {request : HttpRequest}
    (hf : c.forwarded = some request) :
    ∃ a w d b i raw names, ⟨.pick a, .ok (w, d)⟩ ∈ t ∧ G.pool.get? w = some b ∧ IsEntry L data i raw ∧
      parseBackend L raw i = .ok b ∧ modelNames raw = .ok names ∧
      (b.apiStyle ≠ .tgiGenerate → (Dict.get? request.payload "model" = some (.str m) ↔
        ∀ first, names.head? = some first → first = "" ∨ first = m)) := by
  obtain ⟨body', allowed, a, w, d, b, hrouted, hpick, hb, hup⟩ := endpoint_upstream h hc hf
  have hmem : b ∈ top.backends := by
    have hget := (BackendPool.get?_some hb).1
    rw [hpool] at hget
    exact BackendPool.mem_ofList hget
  obtain ⟨i, raw, hentry, hparse⟩ := loadTopology_backends L hload hmem
  obtain ⟨names, hnames, hmodel⟩ := parseBackend_model L hparse
  refine ⟨a, w, d, b, i, raw, names, hpick, hb, hentry, hparse, hnames, fun hstyle => ?_⟩
  rw [model_upstream hstyle (model_openaiBody hrouted.translated hm hne) hup hf, ← ownModel_eq hmodel m]
  simp

end Handler

/-! ## One backend with two models -/

/-- A loader of `dio.json`, for URLs that are a scheme and a host. -/
def plainLoader : Loader where
  U := .ascii
  urlsplit url := .ok ⟨"http", some (String.ofList (url.toList.drop 7))⟩
  path := "dio.json"
  textFor := repr .ascii

/-- One backend with the models `a` and `b`. -/
def twoModels : Json :=
  .obj [("backends", .arr [.obj [("id", .str "gpu0"), ("url", .str "http://a"),
    ("models", .arr [.str "a", .str "b"])]])]

def twoModelsTop : Topology :=
  match loadTopology plainLoader twoModels with
  | .ok top => top
  | .error _ => .empty

theorem load_twoModels : loadTopology plainLoader twoModels = .ok twoModelsTop := by
  have htwo : Dict.keys twoModelsTop.modelMap.entries = ["a", "b"] := by decide +kernel
  unfold twoModelsTop at htwo ⊢
  split
  · rename_i top htop
    exact htop
  · rename_i e he
    rw [he] at htwo
    cases htwo

/-- The gateway built from it. -/
def twoModelsGateway : DioGateway ℚ :=
  { oneBackend with pool := .ofList twoModelsTop.backends, modelMap := twoModelsTop.modelMap }

/-- A completion by the model `m`. -/
def completeWith (m : String) : Obj := [("model", .str m), ("prompt", .str "hello")]

/-- The call sends a request for the model `m`. -/
def asksFor (m : String) (ev : Event (sig ℚ)) : Bool :=
  match Call.forwarded ev.op with
  | some request =>
    match Dict.get? request.payload "model" with
    | some (.str asked) => asked = m
    | _ => false
  | none => false

theorem asksFor_eq {m : String} {ev : Event (sig ℚ)} (h : asksFor m ev = true) :
    ∃ request, Call.forwarded ev.op = some request ∧ Dict.get? request.payload "model" = some (.str m) := by
  unfold asksFor at h
  split at h
  · rename_i request hf
    split at h
    · rename_i asked hasked
      exact ⟨request, hf, by rw [hasked, of_decide_eq_true h]⟩
    · cases h
  · cases h

/-- The completion is forwarded to the backend, which is asked for its first model. -/
theorem complete_asksFor {m : String} (hm : m = "a" ∨ m = "b") : ∃ t x ev request,
    (serve (Endpoint.completions.handle twoModelsGateway (completeWith m))).Exec t x ∧ ev ∈ t ∧
      Call.forwarded ev.op = some request ∧ Dict.get? request.payload "model" = some (.str "a") := by
  obtain ⟨t, x, hexec, hasks, -⟩ := Prog.exists_exec (Answers.env {})
    (p := serve (Endpoint.completions.handle twoModelsGateway (completeWith m)))
    (fun t _ => t.any (asksFor "a") = true) (by rcases hm with rfl | rfl <;> decide +kernel)
  obtain ⟨ev, hev, hask⟩ := List.any_eq_true.1 hasks
  obtain ⟨request, hf, hmodel⟩ := asksFor_eq hask
  exact ⟨t, x, ev, request, hexec, hev, hf, hmodel⟩

/-- A completion by the first model gets it. -/
theorem forwarded_model_first : ∃ (t : List (Event (sig ℚ))) (x : Except Exn Unit) (ev : Event (sig ℚ))
    (request : HttpRequest) (a : PickArgs) (w : String) (d : RoutingDecision ℚ) (b : Backend) (i : Nat) (raw : Json)
    (names : List String), (serve (Endpoint.completions.handle twoModelsGateway (completeWith "a"))).Exec t x ∧ ev ∈ t ∧
      Call.forwarded ev.op = some request ∧ ⟨.pick a, .ok (w, d)⟩ ∈ t ∧
      twoModelsGateway.pool.get? w = some b ∧ IsEntry plainLoader twoModels i raw ∧ parseBackend plainLoader raw i = .ok b ∧
      modelNames raw = .ok names ∧ (b.apiStyle ≠ .tgiGenerate → (Dict.get? request.payload "model" = some (.str "a") ↔
        ∀ first, names.head? = some first → first = "" ∨ first = "a")) := by
  obtain ⟨t, x, ev, request, hexec, hev, hf, -⟩ := complete_asksFor (.inl rfl)
  obtain ⟨a, w, d, b, i, raw, names, h⟩ := forwarded_model_iff plainLoader load_twoModels twoModelsGateway rfl
    .completions (show Dict.get? (completeWith "a") "model" = some (.str "a") from rfl) (by decide) hexec hev hf
  exact ⟨t, x, ev, request, a, w, d, b, i, raw, names, hexec, hev, hf, h⟩

/-- A completion by the second model is forwarded for the first. -/
theorem second_model_misserved : loadTopology plainLoader twoModels = .ok twoModelsTop ∧
    "b" ∈ Dict.keys twoModelsTop.modelMap.entries ∧ generic "b" = false ∧
      (∀ b ∈ twoModelsGateway.pool.backends, b.apiStyle ≠ .tgiGenerate) ∧
        ∃ t x ev request, (serve (Endpoint.completions.handle twoModelsGateway (completeWith "b"))).Exec t x ∧ ev ∈ t ∧
          Call.forwarded ev.op = some request ∧ Dict.get? request.payload "model" ≠ some (.str "b") := by
  obtain ⟨t, x, ev, request, hexec, hev, hf, hmodel⟩ := complete_asksFor (.inr rfl)
  refine ⟨load_twoModels, by decide +kernel, by decide, by decide +kernel, t, x, ev, request, hexec, hev, hf, ?_⟩
  rw [hmodel]
  intro heq
  exact absurd (Json.str.inj (Option.some.inj heq)) (by decide)

end Dio.Config
