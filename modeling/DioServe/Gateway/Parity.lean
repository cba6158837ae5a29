/-
The streaming and the JSON path send the same upstream request, except for `stream`: unless the
engine speaks TGI, whose translation the streaming path leaves out, or the backend's timeout is an
explicit zero, which the streaming path reads as none.
-/
import DioServe.Gateway.Forwarding

namespace Dio.Gateway

open Data Py Effect Scheduler

variable {K : Type}

/-- The request of a stream is the one sent for the same body without streaming, except for `stream`. -/
def SameStreamed (request : HttpRequest) (sent : Except PyErr HttpRequest) : Prop :=
  ∃ request', sent = .ok request' ∧ request.url = request'.url ∧ request.headers = request'.headers ∧
    request.timeout = request'.timeout ∧ Dict.Equiv request.payload (Dict.set request'.payload "stream" (.bool true))

/-! ## Timeouts -/

/-- `b.timeout_s or t` is `t if b.timeout_s is None else b.timeout_s`, except for a zero. -/
theorem orTimeout_eq_getD_iff (timeoutS : Option PyFloat) (t : PyFloat) :
    orTimeout timeoutS t = timeoutS.getD t ↔ (timeoutS = some (.fin 0) → t = .fin 0) := by
  cases timeoutS with
  | none => simp [orTimeout]
  | some x =>
    by_cases h : x = .fin 0
    · simp [orTimeout, h]
    · simp [orTimeout, h]

/-! ## Payloads -/

/-- Setting the model and `stream` in either order. -/
theorem streamPayload_equiv (b : Backend) (body : Obj) :
    Dict.Equiv (streamPayload b body) (Dict.set (b.setModel body) "stream" (.bool true)) := by
  unfold streamPayload Backend.setModel
  split
  · exact Dict.Equiv.set_comm (by decide) _ _ _
  · exact Dict.Equiv.refl _

/-- A TGI payload has an input and parameters, and nothing else. -/
theorem tgiGenerate_shape {U : Unicode} {body payload : Obj} (h : openaiChatToTgiGenerate U body = .ok payload) :
    ∃ inputs params, payload = [("inputs", .str inputs), ("parameters", .obj params)] := by
  unfold openaiChatToTgiGenerate at h
  obtain ⟨inputs, -, h⟩ := bind_eq_ok.1 h
  obtain ⟨_, -, h⟩ := bind_eq_ok.1 h
  obtain ⟨_, -, h⟩ := bind_eq_ok.1 h
  obtain ⟨_, -, h⟩ := bind_eq_ok.1 h
  obtain ⟨_, -, h⟩ := bind_eq_ok.1 h
  obtain ⟨_, -, h⟩ := bind_eq_ok.1 h
  obtain ⟨params, -, h⟩ := bind_eq_ok.1 h
  cases h
  exact ⟨inputs, params, rfl⟩

/-- The member a body is valid for: it stays in the payload of a stream. -/
def Path.member : Path → String
  | .chat => "messages"
  | .completions => "prompt"

theorem member_of_valid {U : Unicode} {body : Obj} {path : Path} {cap : Int}
    (h : validateOpenaiBody U (.obj body) path cap = none) : ∃ v, Dict.get? body path.member = some v := by
  cases path with
  | chat =>
    obtain ⟨m, ms, hm⟩ := messages_of_valid h
    exact ⟨_, hm⟩
  | completions =>
    obtain ⟨v, hv, -⟩ := prompt_of_valid h
    exact ⟨v, hv⟩

/-- The streamed payload is the one sent, except for `stream`, unless the engine speaks TGI. -/
theorem payload_parity_iff {U : Unicode} {b : Backend} {body : Obj} {path : Path} {cap : Int}
    (hvalid : validateOpenaiBody U (.obj body) path cap = none) :
    (∃ payload, b.forwardPayload U body = .ok payload ∧
      Dict.Equiv (streamPayload b body) (Dict.set payload "stream" (.bool true))) ↔ b.apiStyle ≠ .tgiGenerate := by
  unfold Backend.forwardPayload
  by_cases htgi : b.apiStyle = .tgiGenerate
  · rw [if_pos htgi]
    refine iff_of_false ?_ (fun h => h htgi)
    rintro ⟨payload, hp, hequiv⟩
    obtain ⟨inputs, params, rfl⟩ := tgiGenerate_shape hp
    obtain ⟨v, hv⟩ := member_of_valid hvalid
    have hkept : Dict.get? (streamPayload b body) path.member = some v := by
      rw [get?_streamPayload, hv] <;> cases path <;> decide
    have hnone : Dict.get? (Dict.set [("inputs", Json.str inputs), ("parameters", Json.obj params)] "stream" (.bool true))
        path.member = none := by cases path <;> rfl
    rw [hequiv, hnone] at hkept
    cases hkept
  · rw [if_neg htgi]
    exact iff_of_true ⟨_, rfl, streamPayload_equiv b body⟩ htgi

/-- The streamed request is the one sent, except for `stream`, unless the engine speaks TGI or the
backend's timeout is an explicit zero and the gateway's is not. -/
theorem streamRequest_same_iff (G : DioGateway K) {b : Backend} {body : Obj} {path : Path} {cap : Int}
    (hvalid : validateOpenaiBody G.U (.obj body) path cap = none) :
    SameStreamed (streamRequest G b path (streamPayload b body)) (b.forward G.U path body G.requestTimeoutS) ↔
      b.apiStyle ≠ .tgiGenerate ∧ (b.timeoutS = some (.fin 0) → G.requestTimeoutS = .fin 0) := by
  rw [← payload_parity_iff hvalid, ← orTimeout_eq_getD_iff]
  constructor
  · rintro ⟨request', hsent, -, -, htimeout, hpayload⟩
    obtain ⟨payload, hp, rfl⟩ := Backend.forward_eq_ok.1 hsent
    exact ⟨⟨payload, hp, hpayload⟩, htimeout⟩
  · rintro ⟨⟨payload, hp, hpayload⟩, htimeout⟩
    refine ⟨_, Backend.forward_eq_ok.2 ⟨payload, hp, rfl⟩, ?_, rfl, htimeout, hpayload⟩
    cases path <;> rfl

/-! ## The handler -/

section Field

variable [Field K] [LinearOrder K] [FloorRing K]

/-- The request `_relay_stream` builds for a valid body is the one the JSON path sends, except for
`stream`, exactly when the backend picked does not speak TGI and has no explicit zero timeout that
the gateway's timeout would replace. -/
theorem relayStream_parity_iff (G : DioGateway K) {path : Path} {body : Obj}
    (hvalid : validateOpenaiBody G.U (.obj body) path G.maxTokensCap = none) {tier : String}
    {allowed : Option (List String)} {mediaType : String} {t : List (Event (sig K))} {x : Except Exn Unit}
    (h : (serve (relayStream G body path tier allowed mediaType)).Exec t x) {n : Attempt} {request : HttpRequest}
    {r : (Call.buildRequest n request : Call K).Res} (hbuilt : ⟨.buildRequest n request, r⟩ ∈ t) :
    ∃ a w d b, ⟨.pick a, .ok (w, d)⟩ ∈ t ∧ G.pool.get? w = some b ∧
      (SameStreamed request (b.forward G.U path body G.requestTimeoutS) ↔
        b.apiStyle ≠ .tgiGenerate ∧ (b.timeoutS = some (.fin 0) → G.requestTimeoutS = .fin 0)) := by
  obtain ⟨a, w, d, b, hpick, hb, rfl⟩ := relayStream_builds h hbuilt
  exact ⟨a, w, d, b, hpick, hb, streamRequest_same_iff G hvalid⟩

end Field

/-! ## Examples -/

/-- The events of a relayed completion. -/
def relayHello (G : DioGateway ℚ) : List (Event (sig ℚ)) :=
  (Prog.run (Answers.env {}) (serve (relayStream G hello .completions "small" none "text/event-stream"))).1

/-- The request of a completion streamed from an OpenAI engine is the one sent without streaming. -/
theorem relayStream_parity_hello : ∃ request r b, ⟨.buildRequest .first request, r⟩ ∈ relayHello oneBackend ∧
    b ∈ oneBackend.pool.backends ∧
      SameStreamed request (b.forward oneBackend.U .completions hello oneBackend.requestTimeoutS) := by
  have hbuilt : ⟨.buildRequest .first (streamRequest oneBackend { id := "gpu0", baseUrl := "http://a" } .completions
      (streamPayload { id := "gpu0", baseUrl := "http://a" } hello)), .ok ()⟩ ∈ relayHello oneBackend :=
    List.mem_of_getElem? (i := 2) rfl
  obtain ⟨a, w, d, b, -, hb, hsame⟩ := relayStream_parity_iff oneBackend rfl (Prog.exec_run _ _) hbuilt
  have hmem : b ∈ oneBackend.pool.backends := (BackendPool.get?_some hb).1
  have hone : b = { id := "gpu0", baseUrl := "http://a" } := List.mem_singleton.1 hmem
  refine ⟨_, _, b, hbuilt, hmem, hsame.2 ⟨?_, ?_⟩⟩
  · rw [hone]; decide
  · rw [hone]; nofun

/-- A gateway whose backend has an explicit zero timeout. -/
def zeroTimeout : DioGateway ℚ :=
  { oneBackend with pool := .ofList [{ id := "gpu0", baseUrl := "http://a", timeoutS := some (.fin 0) }] }

/-- The request of a completion streamed from it has another timeout than the one sent without
streaming. -/
theorem relayStream_zero_timeout : ∃ request r b, ⟨.buildRequest .first request, r⟩ ∈ relayHello zeroTimeout ∧
    zeroTimeout.pool.get? "gpu0" = some b ∧
      ¬ SameStreamed request (b.forward zeroTimeout.U .completions hello zeroTimeout.requestTimeoutS) := by
  refine ⟨_, _, _, List.mem_of_getElem? (i := 2) rfl, rfl, ?_⟩
  rintro ⟨request', hsent, -, -, htimeout, -⟩
  cases hsent
  exact absurd htimeout (by decide)

end Dio.Gateway
