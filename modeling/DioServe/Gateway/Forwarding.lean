/-
What is sent upstream: for each endpoint, every request any of its executions forwards or builds,
in terms of the body handed on and the backend picked.
-/
import DioServe.Gateway.Dispatch

namespace Dio.Gateway

open Data Py Effect Scheduler

variable {K : Type}

/-- The endpoint speaks Ollama's dialect. -/
def Endpoint.isOllama : Endpoint → Bool
  | .ollamaChat | .ollamaGenerate => true
  | _ => false

/-- The request a call hands to the HTTP client. -/
def Call.forwarded : Call K → Option HttpRequest
  | .post _ request => some request
  | .buildRequest _ request => some request
  | _ => none

theorem Call.forwarded_of_plain {c : Call K} (h : c.plain = true) : c.forwarded = none := by
  cases c <;> first | rfl | cases h

section Upstream

variable (G : DioGateway K) (e : Endpoint) (b : Backend) (body : Obj)

/-- The payload of an Ollama stream for a body handed on. -/
def ollamaStreamPayload : Obj := ollamaPayload b (Dict.set body "stream" (.bool true))

/-- The calls that send the body `body` handed on by an endpoint to a backend. -/
inductive Upstream : Call K → Prop
  | forwarded {request : HttpRequest} : b.forward G.U e.path body G.requestTimeoutS = .ok request →
      Upstream (.post .first request)
  | fellBack {request : HttpRequest} {prompt : String} : e.path = .chat → extractPrompt G.U body = .ok prompt →
      b.forward G.U .completions (fallbackBody body prompt) G.requestTimeoutS = .ok request →
      Upstream (.post .again request)
  | relayed : e.isOllama = false → Upstream (.buildRequest .first (streamRequest G b e.path (streamPayload b body)))
  | translated : e.isOllama = true →
      Upstream (.buildRequest .first (streamRequest G b e.path (ollamaStreamPayload b body)))
  | retried : e.isOllama = true →
      Upstream (.buildRequest .again
        (streamRequest G b e.path (Dict.erase (ollamaStreamPayload b body) "stream_options")))

end Upstream

/-! ## Payloads -/

theorem get?_setModel (b : Backend) (payload : Obj) {k : String} (h : k ≠ "model") :
    Dict.get? (b.setModel payload) k = Dict.get? payload k := by
  unfold Backend.setModel
  split
  · exact Dict.get?_set_ne (Ne.symm h) _ _
  · rfl

theorem get?_streamPayload (b : Backend) (body : Obj) {k : String} (hm : k ≠ "model") (hs : k ≠ "stream") :
    Dict.get? (streamPayload b body) k = Dict.get? body k := by
  rw [streamPayload, get?_setModel b _ hm, Dict.get?_set_ne (Ne.symm hs)]

theorem get?_ollamaPayload (b : Backend) (body : Obj) {k : String} (hm : k ≠ "model") (hs : k ≠ "stream")
    (ho : k ≠ "stream_options") : Dict.get? (ollamaPayload b body) k = Dict.get? body k := by
  unfold ollamaPayload
  dsimp only
  split
  · rw [Dict.get?_set_ne (Ne.symm ho), get?_streamPayload b body hm hs]
  · exact get?_streamPayload b body hm hs

theorem get?_ollamaStreamPayload (b : Backend) (body : Obj) {k : String} (hm : k ≠ "model") (hs : k ≠ "stream")
    (ho : k ≠ "stream_options") : Dict.get? (ollamaStreamPayload b body) k = Dict.get? body k := by
  rw [ollamaStreamPayload, get?_ollamaPayload b _ hm hs ho, Dict.get?_set_ne (Ne.symm hs)]

/-- The retry without `stream_options` keeps the other members. -/
theorem get?_retriedPayload (b : Backend) (body : Obj) {k : String} (hm : k ≠ "model") (hs : k ≠ "stream")
    (ho : k ≠ "stream_options") :
    Dict.get? (Dict.erase (ollamaStreamPayload b body) "stream_options") k = Dict.get? body k := by
  rw [Dict.get?_erase_ne (Ne.symm ho), get?_ollamaStreamPayload b body hm hs ho]

/-! ## Who sends what -/

/-- A call that forwards nothing, or sends a body to the backend `w`. -/
def Sending (G : DioGateway K) (e : Endpoint) (body : Obj) (w : String) (ev : Event (sig K)) : Prop :=
  Call.forwarded ev.op = none ∨ ∃ b, G.pool.get? w = some b ∧ Upstream G e b body ev.op

theorem Sending.of_plain {G : DioGateway K} {e : Endpoint} {body : Obj} {w : String} (ev : Event (sig K))
    (h : Call.plain ev.op = true) : Sending G e body w ev := .inl (Call.forwarded_of_plain h)

/-- A proxy that sends anything was admitted. -/
theorem picked_of_forwarded {α : Type} {G : DioGateway K} {body : Obj} {tier : String} {allowed : Option (List String)}
    {reject : AdmissionError → Co K α} {accept : String → Int → String → RoutingDecision K → Co K α}
    (hr : ∀ e, Plain (reject e)) {t : List (Event (sig K))} {x : Except Exn α}
    (h : (admission G body tier allowed reject accept).Exec t x) {ev : Event (sig K)} (hev : ev ∈ t)
    (hf : Call.forwarded ev.op ≠ none) : ∃ a w d, ⟨.pick a, .ok (w, d)⟩ ∈ t := by
  rcases exec_admission h with ⟨rfl, -⟩ | ⟨prompt, tokens, -, -, ⟨e, t', rfl, h'⟩ | ⟨w, d, t', rfl, h'⟩⟩
  · cases hev
  · rcases List.mem_cons.1 hev with rfl | hev
    · exact absurd rfl hf
    · exact absurd (Call.forwarded_of_plain (hr e _ _ h' ev hev)) hf
  · exact ⟨_, w, d, List.mem_cons_self ..⟩

variable [Field K] [LinearOrder K] [FloorRing K]

variable {G : DioGateway K} {e : Endpoint} {body : Obj} {prompt : String} {tokens : Int} {w : String}
  {d : RoutingDecision K}

theorem sending_jsonAdmitted (hp : extractPrompt G.U body = .ok prompt) :
    Prog.Only (Sending G e body w) (jsonAdmitted G body e.path prompt tokens w d) :=
  only_jsonAdmitted Sending.of_plain (only_exchange (fun b _ _ hb hr => .inr ⟨b, hb, .forwarded hr⟩)
    fun b _ _ hpath hb hr => .inr ⟨b, hb, .fellBack hpath hp hr⟩)

/-- What a relayed stream sends. -/
theorem relayAdmitted_builds {path : Path} {mediaType : String} :
    Prog.Only (fun ev : Event (sig K) => Call.forwarded ev.op = none ∨ ∃ b, G.pool.get? w = some b ∧
        ev.op = Call.buildRequest .first (streamRequest G b path (streamPayload b body)))
      (serve (relayAdmitted G body path mediaType prompt tokens w d)) :=
  only_openedStream (fun _ h => .inl (Call.forwarded_of_plain h)) (fun b _ hb => .inr ⟨b, hb, rfl⟩)
    (fun _ _ => Prog.Only.ask fun _ => .inl rfl) (fun _ _ => inert_relayRefusal)
    fun _ => plain_relayed inert_relayChunks fun _ => Prog.Only.ret _

theorem sending_relayAdmitted (he : e.isOllama = false) {mediaType : String} :
    Prog.Only (Sending G e body w) (serve (relayAdmitted G body e.path mediaType prompt tokens w d)) := by
  refine Prog.Only.mono relayAdmitted_builds ?_
  rintro ev (h | ⟨b, hb, h⟩)
  · exact .inl h
  · exact .inr ⟨b, hb, h ▸ .relayed he⟩

theorem sending_ollamaAdmitted (he : e.isOllama = true) {isChat : Bool} :
    Prog.Only (Sending G e body w)
      (serve (ollamaAdmitted G (Dict.set body "stream" (.bool true)) e.path isChat prompt tokens w d)) :=
  only_openedStream Sending.of_plain (fun b _ hb => .inr ⟨b, hb, .translated he⟩)
    (fun b hb => only_openOllama Sending.of_plain (fun _ => .inr ⟨b, hb, .retried he⟩) fun _ _ => .inl rfl)
    (fun _ _ => inert_ollamaRefusal) fun _ => plain_relayed inert_readOllama fun _ => inert_finishOllama

/-- What an admitted request sends goes to the backend picked. -/
theorem sending_admitted {body' : Obj} {allowed : Option (List String)} {t : List (Event (sig K))} {x : Except Exn Unit}
    (h : (∃ x', (proxyJson G body' e.path "small" allowed).Exec t x') ∨
      (serve ((e.streaming body').1.proxy G (e.streaming body').2 e.path "small" allowed)).Exec t x) {a : PickArgs}
    (hpick : ⟨.pick a, .ok (w, d)⟩ ∈ t) : ∀ ev ∈ t, Sending G e body' w ev := by
  have hcons : ∀ {t'}, (∀ ev ∈ t', Sending G e body' w ev) →
      ∀ ev ∈ (⟨.pick a, .ok (w, d)⟩ :: t' : List (Event (sig K))), Sending G e body' w ev := by
    intro t' ht ev hev
    rcases List.mem_cons.1 hev with rfl | hev
    · exact .inl rfl
    · exact ht ev hev
  rcases h with ⟨x', h⟩ | h
  · obtain ⟨prompt, tokens, t', hp, -, -, rfl, h'⟩ :=
      exec_admission_on (fun _ => inert_jsonResponse.plain.pickless) (fun _ _ _ _ => pickless_jsonAdmitted) h hpick
    exact hcons (sending_jsonAdmitted hp _ _ h')
  · obtain ⟨prompt, tokens, t', rfl, h'⟩ := exec_stream_admitted h hpick
    apply hcons
    cases e with
    | chatCompletions => exact sending_relayAdmitted (e := .chatCompletions) rfl _ _ h'
    | completions => exact sending_relayAdmitted (e := .completions) rfl _ _ h'
    | ollamaChat => exact sending_ollamaAdmitted (e := .ollamaChat) rfl _ _ h'
    | ollamaGenerate => exact sending_ollamaAdmitted (e := .ollamaGenerate) rfl _ _ h'

/-- The requests a relayed stream builds are for the backend picked. -/
theorem relayStream_builds {path : Path} {tier : String} {allowed : Option (List String)} {mediaType : String}
    {t : List (Event (sig K))} {x : Except Exn Unit} (h : (serve (relayStream G body path tier allowed mediaType)).Exec t x)
    {n : Attempt} {request : HttpRequest} {r : (Call.buildRequest n request : Call K).Res}
    (hbuilt : ⟨.buildRequest n request, r⟩ ∈ t) : ∃ a w d b, ⟨.pick a, .ok (w, d)⟩ ∈ t ∧ G.pool.get? w = some b ∧
      request = streamRequest G b path (streamPayload b body) := by
  have hexec : (serve ((StreamHandler.relay mediaType).proxy G body path tier allowed)).Exec t x := h
  rw [relayStream, serve_admission] at h
  obtain ⟨a, w, d, hpick⟩ := picked_of_forwarded
    (fun _ => (inert_serve_streamingResponse inert_yieldAll).plain) h hbuilt (Option.some_ne_none request)
  obtain ⟨prompt, tokens, t', rfl, h'⟩ := exec_stream_admitted hexec hpick
  rcases List.mem_cons.1 hbuilt with hbuilt | hbuilt
  · cases hbuilt
  · obtain ⟨b, hb, hreq⟩ := (relayAdmitted_builds _ _ h' _ hbuilt).resolve_left (Option.some_ne_none request)
    cases hreq
    exact ⟨a, w, d, b, hpick, hb, rfl⟩

/-- Whatever a request sends upstream, its body passed the endpoint's checks and goes to the backend
picked, in one of the ways an endpoint sends a body. -/
theorem endpoint_upstream {t : List (Event (sig K))} {x : Except Exn Unit} (h : (serve (e.handle G body)).Exec t x)
    {c : Call K} {r : c.Res} (hc : ⟨c, r⟩ ∈ t) {request : HttpRequest} (hf : c.forwarded = some request) :
    ∃ body' allowed a w d b, Routed G e body body' allowed ∧ ⟨.pick a, .ok (w, d)⟩ ∈ t ∧ G.pool.get? w = some b ∧
      Upstream G e b body' c := by
  have hne : Call.forwarded c ≠ none := by rw [hf]; exact Option.some_ne_none request
  rcases exec_endpoint h with rfl | ⟨body', allowed, hrouted, h'⟩
  · cases hc
  · obtain ⟨a, w, d, hpick⟩ : ∃ a w d, (⟨.pick a, .ok (w, d)⟩ : Event (sig K)) ∈ t := by
      rcases h' with ⟨x', h'⟩ | h'
      · exact picked_of_forwarded (fun _ => inert_jsonResponse.plain) h' hc hne
      · cases hs : (e.streaming body').1 with
        | relay mediaType =>
          rw [hs, StreamHandler.proxy, relayStream, serve_admission] at h'
          exact picked_of_forwarded (fun _ => (inert_serve_streamingResponse inert_yieldAll).plain) h' hc hne
        | ollama isChat =>
          rw [hs, StreamHandler.proxy, proxyOllamaStream, serve_admission] at h'
          exact picked_of_forwarded
            (fun _ => (inert_serve_streamingResponse (Prog.Only.ask fun _ => rfl)).plain) h' hc hne
    obtain ⟨b, hb, hup⟩ := (sending_admitted h' hpick _ hc).resolve_left hne
    exact ⟨body', allowed, a, w, d, b, hrouted, hpick, hb, hup⟩

end Dio.Gateway
