/-
The gateway in front of the mock server: an Ollama client that streams reads what one that does not
stream is answered, through the translation of both bodies, the routing and the connection's cuts.
-/
import DioServe.Engine.MockBackend
import DioServe.Gateway.Forwarding
import DioServe.Gateway.ReplyParity

namespace Dio.Engine

open Data Py Effect Scheduler Gateway

variable {K : Type} [Field K] [LinearOrder K] [FloorRing K]

/-! ## What a client asks -/

/-- What is generated of an Ollama body: its messages, or its prompt. -/
def contentKey (isChat : Bool) : String := if isChat then "messages" else "prompt"

def contentOf (isChat : Bool) (ask : Obj) : Json :=
  ((Dict.get? ask (contentKey isChat)).getD .null).orElse (if isChat then .arr [] else .str "")

/-- The body sent upstream asks what the client does. -/
structure Asks (U : Unicode) (isChat : Bool) (ask body : Obj) : Prop where
  content : Dict.get? body (contentKey isChat) = some (contentOf isChat ask)
  budget : MapsNumPredict U (optionsOf ask) body

/-- Members that the translation of an Ollama body reads. -/
theorem openaiBody_asks {U : Unicode} {isChat : Bool} {ask body : Obj}
    (h : (dialect isChat).openaiBody U ask = .ok body) :
    Asks U isChat ask body ∧ Dict.get? body "model" = some (modelHint ask) ∧ Dict.get? body "stream_options" = none := by
  cases isChat with
  | true =>
    have ht : TranslatedFrom U _ ask body := ollamaBody_translated h
    exact ⟨⟨ht.other "messages" (by decide) (by decide), ht.budget rfl⟩, ht.other "model" (by decide) (by decide),
      ht.other "stream_options" (by decide) (by decide)⟩
  | false =>
    have ht : TranslatedFrom U _ ask body := ollamaBody_translated h
    exact ⟨⟨ht.other "prompt" (by decide) (by decide), ht.budget rfl⟩, ht.other "model" (by decide) (by decide),
      ht.other "stream_options" (by decide) (by decide)⟩

theorem Asks.congr {U : Unicode} {isChat : Bool} {ask ask' body : Obj} (h : Asks U isChat ask body)
    (hask : ∀ k, k ≠ "stream" → Dict.get? ask' k = Dict.get? ask k) : Asks U isChat ask' body := by
  have hkey : contentKey isChat ≠ "stream" := by cases isChat <;> decide
  refine ⟨?_, ?_⟩
  · rw [h.content, contentOf, contentOf, hask _ hkey]
  · have hoptions : optionsOf ask' = optionsOf ask := by rw [optionsOf, optionsOf, hask _ (by decide)]
    rw [hoptions]
    exact h.budget

/-- What is sent keeps what is asked when it changes other members only. -/
theorem Asks.of_agree {U : Unicode} {isChat : Bool} {ask body body' : Obj} (h : Asks U isChat ask body)
    (hk : ∀ k, k ≠ "model" → k ≠ "stream" → k ≠ "stream_options" → Dict.get? body' k = Dict.get? body k) :
    Asks U isChat ask body' := by
  refine ⟨?_, ?_⟩
  · rw [← h.content]
    cases isChat <;> exact hk _ (by decide) (by decide) (by decide)
  · have hbudget := h.budget
    unfold MapsNumPredict at hbudget ⊢
    rw [hk _ (by decide) (by decide) (by decide)]
    exact hbudget

section Generation

variable {E : MockBackendServer} {U : Unicode} {isChat : Bool} {ask body body' : Obj}

theorem budget_unique (h : Asks U isChat ask body) (h' : Asks U isChat ask body') :
    Dict.get? body "max_tokens" = Dict.get? body' "max_tokens" := by
  have hb := h.budget
  have hb' := h'.budget
  unfold MapsNumPredict at hb hb'
  split at hb
  · rename_i v hv
    rw [hv] at hb'
    obtain ⟨n, hn, hget⟩ := hb
    obtain ⟨n', hn', hget'⟩ := hb'
    cases hn.symm.trans hn'
    rw [hget, hget']
  · rename_i hv
    rw [hv] at hb'
    rw [hb, hb']

/-- The server generates the same for all that ask the same. -/
theorem generation_unique (h : Asks U isChat ask body) (h' : Asks U isChat ask body') :
    E.generation isChat body = E.generation isChat body' := by
  have hbudget : maxTokens E.U body = maxTokens E.U body' := by rw [maxTokens, maxTokens, budget_unique h h']
  have hcontent := h.content.trans h'.content.symm
  cases isChat with
  | true =>
    have hread : Dict.get? body "messages" = Dict.get? body' "messages" := hcontent
    show E.chatGeneration body = E.chatGeneration body'
    unfold MockBackendServer.chatGeneration MockBackendServer.chatContent
    rw [hbudget, hread]
  | false =>
    have hread : Dict.get? body "prompt" = Dict.get? body' "prompt" := hcontent
    show E.completionsGeneration body = E.completionsGeneration body'
    unfold MockBackendServer.completionsGeneration
    rw [hbudget, hread]

theorem maxTokens_of_generation {g : Generation} (hg : E.generation isChat body = .ok g) :
    maxTokens E.U body = .ok g.maxTokens := by
  cases isChat with
  | true =>
    obtain ⟨content, -, hg⟩ := bind_eq_ok.1 hg
    obtain ⟨budget, hbudget, hg⟩ := bind_eq_ok.1 hg
    cases hg
    exact hbudget
  | false =>
    obtain ⟨budget, hbudget, hg⟩ := bind_eq_ok.1 hg
    cases hg
    exact hbudget

/-- A budget that the client does not ask to be negative is not. -/
theorem maxTokens_nonneg (h : Asks U isChat ask body) {g : Generation} (hg : E.generation isChat body = .ok g)
    (hn : ∀ v n, Dict.get? (optionsOf ask) "num_predict" = some v → v.toInt U = .ok n → 0 ≤ n) : 0 ≤ g.maxTokens := by
  have hmax := maxTokens_of_generation hg
  have hb := h.budget
  unfold MapsNumPredict at hb
  unfold maxTokens at hmax
  split at hb
  · rename_i v hv
    obtain ⟨n, hvn, hget⟩ := hb
    have hpos := hn v n hv hvn
    rw [hget, Option.getD_some] at hmax
    unfold Json.orElse at hmax
    split at hmax
    · cases hmax
      exact hpos
    · have hdefault : (64 : Int) = g.maxTokens := Except.ok.inj hmax
      omega
  · rw [hb] at hmax
    have hdefault : (64 : Int) = g.maxTokens := Except.ok.inj hmax
    omega

end Generation

/-! ## What the server is asked -/

section Upstream

variable {G : DioGateway K} {isChat : Bool} {ask : Obj}

theorem sound_orElse {j k : Json} (hj : j.Sound) (hk : k.Sound) : (j.orElse k).Sound := by
  unfold Json.orElse
  split
  · exact hj
  · exact hk

/-- The model a payload names. -/
theorem sound_setModel {b : Backend} {payload : Obj} (h : ∀ v, Dict.get? payload "model" = some v → v.Sound) :
    ∀ v, Dict.get? (b.setModel payload) "model" = some v → v.Sound := by
  intro v hv
  unfold Backend.setModel at hv
  split at hv
  · rw [Dict.get?_set_self] at hv
    cases hv
    trivial
  · exact h v hv

theorem sound_modelName {payload : Obj} (h : ∀ v, Dict.get? payload "model" = some v → v.Sound) :
    (modelName payload).Sound := by
  apply sound_orElse
  · cases hv : Dict.get? payload "model" with
    | none => trivial
    | some v => exact h v hv
  · trivial

/-- The first request of an Ollama endpoint to an OpenAI engine asks what the client does; a stream is
asked for its usage. -/
theorem upstream_asks {t : List (Event (sig K))} {x : Except Exn Unit}
    (h : (serve ((dialect isChat).handle G ask)).Exec t x) (hpool : ∀ w b, G.pool.get? w = some b → b.apiStyle = .openai)
    (hmodel : ∀ v, Dict.get? ask "model" = some v → v.Sound) {c : Call K} {r : c.Res} (hc : ⟨c, r⟩ ∈ t)
    {request : HttpRequest} (hf : c = .post .first request ∨ c = .buildRequest .first request) :
    Asks G.U isChat ask request.payload ∧ (modelName request.payload).Sound ∧
      (c = .buildRequest .first request → AsksUsage ((Dict.get? request.payload "stream_options").getD .null)) ∧
      ∃ a w d b, ⟨.pick a, .ok (w, d)⟩ ∈ t ∧ G.pool.get? w = some b := by
  have hsent : c.forwarded = some request := by rcases hf with rfl | rfl <;> rfl
  obtain ⟨body, allowed, a, w, d, b, hrouted, hpick, hb, hup⟩ := endpoint_upstream h hc hsent
  obtain ⟨hasks, hname, hoptions⟩ := openaiBody_asks hrouted.translated
  have hhint : ∀ v, Dict.get? body "model" = some v → v.Sound := by
    intro v hv
    cases hname.symm.trans hv
    apply sound_orElse
    · cases hv : Dict.get? ask "model" with
      | none => trivial
      | some v => exact hmodel v hv
    · trivial
  have hollama : (dialect isChat).isOllama = true := by cases isChat <;> rfl
  cases hup with
  | forwarded hforward =>
    rcases hf with hf | hf <;> cases hf
    obtain ⟨payload, hpayload, rfl⟩ := Backend.forward_eq_ok.1 hforward
    rw [Backend.forwardPayload, if_neg (by rw [hpool w b hb]; decide)] at hpayload
    cases hpayload
    exact ⟨hasks.of_agree fun k hm _ _ => get?_setModel b body hm, sound_modelName (sound_setModel hhint),
      nofun, a, w, d, b, hpick, hb⟩
  | translated _ =>
    rcases hf with hf | hf <;> cases hf
    have hpayload : ollamaStreamPayload b body = Dict.set (streamPayload b (Dict.set body "stream" (.bool true)))
        "stream_options" (.obj [("include_usage", .bool true)]) := by
      have hnone : Dict.contains (streamPayload b (Dict.set body "stream" (.bool true))) "stream_options" = false := by
        rw [Dict.contains, get?_streamPayload b _ (by decide) (by decide), Dict.get?_set_ne (by decide), hoptions]
        rfl
      exact if_pos ⟨hpool w b hb, hnone⟩
    refine ⟨hasks.of_agree fun k => get?_ollamaStreamPayload b body, sound_modelName ?_, fun _ => ?_, a, w, d, b, hpick, hb⟩
    · show ∀ v, Dict.get? (ollamaStreamPayload b body) "model" = some v → v.Sound
      rw [hpayload, Dict.get?_set_ne (by decide)]
      apply sound_setModel
      rw [Dict.get?_set_ne (by decide), Dict.get?_set_ne (by decide)]
      exact hhint
    · show AsksUsage ((Dict.get? (ollamaStreamPayload b body) "stream_options").getD .null)
      rw [hpayload, Dict.get?_set_self]
      exact ⟨.bool true, rfl, rfl⟩
  | relayed hno => rw [hollama] at hno; cases hno
  | fellBack _ _ _ => rcases hf with hf | hf <;> cases hf
  | retried _ => rcases hf with hf | hf <;> cases hf

end Upstream

/-! ## The two clients -/

/-- The server streams these chunks for a body: the texts it yields, cut anywhere. -/
def Serves (E : MockBackendServer) (isChat : Bool) (body : Obj) (cs : List (List UInt8)) : Prop :=
  ∃ now gen texts, E.handle isChat now body = .ok (.stream gen) ∧ gen [] = (.ok (), texts) ∧
    cs.flatten = Text.Utf8.encode (String.join texts).toList

/-- The server answers a body with this response. -/
def Replies (E : MockBackendServer) (isChat : Bool) (body : Obj) (up : UpstreamResponse) : Prop :=
  ∃ now text, E.handle isChat now body = .ok (.json text) ∧ up.status = 200 ∧ up.json = (loads text).toOption

section Clients

variable {G : DioGateway K} {E : MockBackendServer} {isChat : Bool} {ask : Obj}

/-- What a client that streams is sent is what the server generates for what it asks. -/
theorem streamedAs_of_serves (hpool : ∀ w b, G.pool.get? w = some b → b.apiStyle = .openai)
    (hmodel : ∀ v, Dict.get? ask "model" = some v → v.Sound) {t u : List (Event (sig K))} {mediaType : String}
    {headers : Dict String String} {gen : Co K Unit} {x : Except Exn Unit} {cs : List (List UInt8)}
    (hopened : ((dialect isChat).handle G ask).Exec t (.ok (.stream 200 mediaType headers gen)))
    {request : HttpRequest} {built : Except String Unit} (hbuilt : ⟨.buildRequest .first request, built⟩ ∈ t)
    (hserves : Serves E isChat request.payload cs) (hgen : gen.Exec (⟨.aiterBytes, cs⟩ :: u) x)
    (hread : ∀ frame, ⟨.yield frame, .close⟩ ∉ u) : ∃ g : Generation, Asks G.U isChat ask request.payload ∧
      E.generation isChat request.payload = .ok g ∧ StreamedAs G isChat g.reply u := by
  have hserved : (serve ((dialect isChat).handle G ask)).Exec (t ++ ⟨.aiterBytes, cs⟩ :: u) x :=
    (Prog.exec_bind _ _ _ _).2 (.inl ⟨_, _, _, hopened, hgen, rfl⟩)
  obtain ⟨hasks, hsound, husage, -⟩ :=
    upstream_asks hserved hpool hmodel (List.mem_append_left _ hbuilt) (.inr rfl)
  obtain ⟨now, sse, texts, hstream, hsse, hcs⟩ := hserves
  obtain ⟨g, hg, -⟩ := MockBackendServer.handle_stream hstream
  exact ⟨g, hasks, hg, ask, t, mediaType, headers, gen, cs, x, hopened,
    MockBackendServer.delivered_of_stream hg hsound (husage rfl) hstream hsse hcs, hgen, hread⟩

/-- What a client that does not stream is answered is what the server generates for what it asks. -/
theorem answeredAs_of_replies (hpool : ∀ w b, G.pool.get? w = some b → b.apiStyle = .openai)
    (hmodel : ∀ v, Dict.get? ask "model" = some v → v.Sound)
    (hbudget : ∀ v n, Dict.get? (optionsOf ask) "num_predict" = some v → v.toInt G.U = .ok n → 0 ≤ n)
    {t : List (Event (sig K))} {resp : JsonResponse K} (hanswered : ((dialect isChat).handle G ask).Exec t (.ok (.json resp)))
    {request : HttpRequest} {up : UpstreamResponse} (hpost : ⟨.post .first request, Outcome.returned up⟩ ∈ t)
    (hreplies : Replies E isChat request.payload up) : ∃ g : Generation, Asks G.U isChat ask request.payload ∧
      E.generation isChat request.payload = .ok g ∧ AnsweredAs G isChat g.reply resp := by
  have hserved : (serve ((dialect isChat).handle G ask)).Exec t (.ok ()) :=
    (Prog.exec_bind _ _ _ _).2 (.inl ⟨_, _, [], hanswered, ⟨rfl, rfl⟩, (List.append_nil t).symm⟩)
  obtain ⟨hasks, hsound, -, a, w, d, b, hpick, hb⟩ := upstream_asks hserved hpool hmodel hpost (.inl rfl)
  obtain ⟨now, text, hjson, hstatus, hup⟩ := hreplies
  obtain ⟨g, hg, -⟩ := MockBackendServer.handle_json hjson
  obtain ⟨data, hdata, hwritten⟩ := MockBackendServer.written_of_json hg (maxTokens_nonneg hasks hg hbudget) hsound hjson
  rw [hdata] at hup
  exact ⟨g, hasks, hg, ask, t, a, w, d, b, request, up, data, hanswered, hpick, hb, by rw [hpool w b hb]; decide, hpost,
    by omega, hup, hwritten⟩

end Clients

/-- Two Ollama clients of the gateway that ask the same of the mock server, one streaming: the frames the
one reads make up the text the other is answered, and end as its answer does. -/
theorem ollama_clients_agree (G : DioGateway K) (hU : G.U.SpacesOnAscii)
    (hpool : ∀ w b, G.pool.get? w = some b → b.apiStyle = .openai) (E : MockBackendServer) (isChat : Bool) {ask ask' : Obj}
    (hask : ∀ k, k ≠ "stream" → Dict.get? ask' k = Dict.get? ask k)
    (hmodel : ∀ v, Dict.get? ask "model" = some v → v.Sound)
    (hbudget : ∀ v n, Dict.get? (optionsOf ask) "num_predict" = some v → v.toInt G.U = .ok n → 0 ≤ n)
    {t u : List (Event (sig K))} {mediaType : String} {headers : Dict String String} {gen : Co K Unit} {x : Except Exn Unit}
    {cs : List (List UInt8)} (hopened : ((dialect isChat).handle G ask).Exec t (.ok (.stream 200 mediaType headers gen)))
    {request : HttpRequest} {built : Except String Unit} (hbuilt : ⟨.buildRequest .first request, built⟩ ∈ t)
    (hserves : Serves E isChat request.payload cs) (hgen : gen.Exec (⟨.aiterBytes, cs⟩ :: u) x)
    (hread : ∀ frame, ⟨.yield frame, .close⟩ ∉ u) {t' : List (Event (sig K))} {resp : JsonResponse K}
    (hanswered : ((dialect isChat).handle G ask').Exec t' (.ok (.json resp))) {request' : HttpRequest}
    {up : UpstreamResponse} (hpost : ⟨.post .first request', Outcome.returned up⟩ ∈ t')
    (hreplies : Replies E isChat request'.payload up) :
    ∃ init final, yielded u = init ++ [final] ∧ textOf isChat (yielded u) = frameText isChat resp.content ∧
      EndsAs final resp.content := by
  have hmodel' : ∀ v, Dict.get? ask' "model" = some v → v.Sound := by rwa [hask _ (by decide)]
  have hoptions : optionsOf ask' = optionsOf ask := by rw [optionsOf, optionsOf, hask _ (by decide)]
  obtain ⟨g, hasks, hg, hstreamed⟩ := streamedAs_of_serves hpool hmodel hopened hbuilt hserves hgen hread
  obtain ⟨g', hasks', hg', hsingle⟩ := answeredAs_of_replies hpool hmodel' (by rwa [hoptions]) hanswered hpost hreplies
  -- what both ask is the same, so what is generated is too
  have hagree := hasks'.congr fun k hk => (hask k hk).symm
  rw [generation_unique hagree hasks, hg] at hg'
  cases hg'
  obtain ⟨p, st, rfl, hst, hyielded⟩ := hstreamed.translated hU
  obtain ⟨hanswer, hcalls⟩ := hsingle.single
  refine ⟨st.out, finalFrame p st, hyielded, ?_, hst.endsAs hanswer hcalls⟩
  rw [hanswer.text, hyielded]
  exact textOf_frames hst

/-! ## One chat -/

/-- The body that the chat `sayHi` is forwarded as. -/
def forwardedHi (more : Obj) : Obj :=
  [("model", .str ""), ("messages", .arr [.obj [("role", .str "user"), ("content", .str "hi")]])] ++ more

def streamedHi : Obj :=
  forwardedHi [("stream", .bool true), ("stream_options", .obj [("include_usage", .bool true)])]

/-- What is generated for it. -/
def echoHi : Generation := ⟨"[m] echo: hi", 64, 1⟩

theorem generation_hi (more : Obj) (hmore : Dict.get? more "max_tokens" = none) :
    mockServer.generation true (forwardedHi more) = .ok echoHi := by
  have hbudget : maxTokens mockServer.U (forwardedHi more) = .ok 64 := by
    have hnone : Dict.get? (forwardedHi more) "max_tokens" = none := hmore
    rw [maxTokens, hnone]
    rfl
  show mockServer.chatGeneration (forwardedHi more) = _
  unfold MockBackendServer.chatGeneration
  rw [hbudget]
  rfl

theorem exists_serves : ∃ cs, Serves mockServer true streamedHi cs := by
  obtain ⟨texts, hgen⟩ : ∃ texts, eventStream chatRoute ⟨0, 0⟩ (.str "mock-model") echoHi
      (.obj [("include_usage", .bool true)]) [] = (.ok (), texts) :=
    eventStream_returns ⟨.bool true, rfl, rfl⟩ (by decide +kernel)
  refine ⟨[Text.Utf8.encode (String.join texts).toList], ⟨0, 0⟩, _, texts, ?_, hgen, List.append_nil _⟩
  rw [MockBackendServer.handle_eq, streamedHi, generation_hi _ rfl]
  rfl

/-- What the server answers it with. -/
def answerHi : UpstreamResponse := ⟨200, some (replyJson chatRoute ⟨0, 0⟩ (.str "mock-model") echoHi), ""⟩

theorem replies_hi : Replies mockServer true (forwardedHi []) answerHi := by
  obtain ⟨text, htext⟩ : ∃ text, dumps .compact (replyJson chatRoute ⟨0, 0⟩ (.str "mock-model") echoHi) = .ok text :=
    ⟨_, dumps_eq_ok.2 ⟨by decide +kernel, rfl⟩⟩
  have hplain : ((Dict.get? (forwardedHi []) "stream").getD .null).truthy ≠ true := by decide
  have hmodel : (Json.str "mock-model").Sound := trivial
  have hread := loads_dumps (sound_replyJson true ⟨0, 0⟩ hmodel echoHi) htext
  refine ⟨⟨0, 0⟩, text, ?_, rfl, by rw [hread]; rfl⟩
  rw [MockBackendServer.handle_eq, generation_hi _ rfl, ok_bind, respond, if_neg hplain]
  show (dumps .compact (replyJson chatRoute ⟨0, 0⟩ (.str "mock-model") echoHi) >>= fun text => .ok (MockReply.json text)) = _
  rw [htext, ok_bind]

/-- The call that opens a stream with `payload`. -/
def buildsFor (payload : Obj) : Call ℚ → Bool
  | .buildRequest .first request => Json.beq (.obj request.payload) (.obj payload)
  | _ => false

/-- The call that posts `payload`. -/
def postsFor (payload : Obj) : Call ℚ → Bool
  | .post .first request => Json.beq (.obj request.payload) (.obj payload)
  | _ => false

theorem buildsFor_eq_true {payload : Obj} {c : Call ℚ} (h : buildsFor payload c = true) :
    ∃ request, c = .buildRequest .first request ∧ request.payload = payload := by
  unfold buildsFor at h
  split at h
  · exact ⟨_, rfl, Json.obj.inj (Json.eq_of_beq h)⟩
  · cases h

theorem postsFor_eq_true {payload : Obj} {c : Call ℚ} (h : postsFor payload c = true) :
    ∃ request, c = .post .first request ∧ request.payload = payload := by
  unfold postsFor at h
  split at h
  · exact ⟨_, rfl, Json.obj.inj (Json.eq_of_beq h)⟩
  · cases h

theorem isOpened_eq_true {x : Except Exn (Reply ℚ)} (h : isOpened x = true) :
    ∃ mediaType headers gen, x = .ok (.stream 200 mediaType headers gen) := by
  unfold isOpened at h
  split at h
  · exact ⟨_, _, _, rfl⟩
  · cases h

theorem isAnswer_eq_true {x : Except Exn (Reply ℚ)} (h : isAnswer x = true) : ∃ resp, x = .ok (.json resp) := by
  unfold isAnswer at h
  split at h
  · exact ⟨_, rfl⟩
  · cases h

theorem ollama_clients_agree_hi : ∃ (u : List (Event (sig ℚ))) (resp : JsonResponse ℚ), ∃ init final,
    yielded u = init ++ [final] ∧ textOf true (yielded u) = frameText true resp.content ∧ EndsAs final resp.content := by
  obtain ⟨cs, hserves⟩ := exists_serves
  have hpool : ∀ w b, oneBackend.pool.get? w = some b → b.apiStyle = .openai := by
    intro w b hb
    cases List.mem_singleton.1 (BackendPool.mem_ofList (BackendPool.get?_some hb).1)
    rfl
  -- the client that streams
  obtain ⟨t, x, hopened, ⟨hstream, hbuilds⟩, henv⟩ := Prog.exists_exec (Answers.env {})
    (p := (dialect true).handle oneBackend (sayHi true))
    (fun t x => isOpened x = true ∧ (t.any fun ev => buildsFor streamedHi ev.op) = true) (by decide +kernel)
  obtain ⟨request, hpayload, hbuilt⟩ : ∃ request : HttpRequest, request.payload = streamedHi ∧
      (⟨.buildRequest .first request, .ok ()⟩ : Event (sig ℚ)) ∈ t := by
    obtain ⟨op, hop, hev⟩ := Prog.exists_answered (buildsFor streamedHi) henv hbuilds
    obtain ⟨request, rfl, hpayload⟩ := buildsFor_eq_true hop
    exact ⟨request, hpayload, hev⟩
  -- the client that does not
  obtain ⟨t', x', hanswered, ⟨hanswer, hposts⟩, henv'⟩ := Prog.exists_exec (Answers.env { post := .returned answerHi })
    (p := (dialect true).handle oneBackend (sayHi false))
    (fun t x => isAnswer x = true ∧ (t.any fun ev => postsFor (forwardedHi []) ev.op) = true) (by decide +kernel)
  obtain ⟨request', hpayload', hpost⟩ : ∃ request : HttpRequest, request.payload = forwardedHi [] ∧
      (⟨.post .first request, .returned answerHi⟩ : Event (sig ℚ)) ∈ t' := by
    obtain ⟨op, hop, hev⟩ := Prog.exists_answered (postsFor (forwardedHi [])) henv' hposts
    obtain ⟨request', rfl, hpayload'⟩ := postsFor_eq_true hop
    exact ⟨request', hpayload', hev⟩
  obtain ⟨resp, rfl⟩ := isAnswer_eq_true hanswer
  obtain ⟨mediaType, headers, gen, rfl⟩ := isOpened_eq_true hstream
  obtain ⟨u, y, hgen, hread⟩ : ∃ u y, gen.Exec (⟨.aiterBytes, cs⟩ :: u) y ∧ ∀ frame, ⟨.yield frame, .close⟩ ∉ u := by
    rcases dialect_reply hopened with ⟨-, _, he⟩ | ⟨body', allowed, h | h⟩
    · cases he
    · obtain ⟨status, _, _, _, hreply, hgenerator⟩ := proxyOllamaStream_reply h
      cases hreply
      obtain ⟨prompt, w, t0, tokens, rfl⟩ := hgenerator rfl
      exact exists_read oneBackend w t0 tokens _ cs
    · obtain ⟨_, _, -, he, -⟩ := ollamaJson_reply h
      cases he
  have hask : ∀ k, k ≠ "stream" → Dict.get? (sayHi false) k = Dict.get? (sayHi true) k := by
    intro k hk
    simp [sayHi, Dict.get?_cons, Ne.symm hk]
  have hmodel : ∀ v, Dict.get? (sayHi true) "model" = some v → v.Sound := fun v h => by cases h
  have hbudget : ∀ v n, Dict.get? (optionsOf (sayHi true)) "num_predict" = some v → v.toInt oneBackend.U = .ok n → 0 ≤ n :=
    fun v n h => by cases h
  obtain ⟨init, final, hagree⟩ := ollama_clients_agree oneBackend (fun _ _ => rfl) hpool mockServer true hask hmodel hbudget
    hopened hbuilt (hpayload ▸ hserves) hgen hread hanswered hpost (hpayload' ▸ replies_hi)
  exact ⟨u, resp, init, final, hagree⟩

end Dio.Engine
