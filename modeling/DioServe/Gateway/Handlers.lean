/-
The request handlers of the gateway (`gateway.py`): the JSON proxy, the two streaming proxies with
their generators, and the four inference endpoints over them. The timestamps `created_at` and
`total_duration` of Ollama replies are left out.
-/
import DioServe.Gateway.Effects
import DioServe.Gateway.Models
import DioServe.Gateway.Request
import DioServe.Gateway.Translate

namespace Dio.Gateway

open Data Py Effect Scheduler

/-- What the handlers read of a `DIOGateway`. -/
structure DioGateway (K : Type) where
  U : Unicode
  pool : BackendPool
  modelMap : ModelMap
  tokenizer : Option Tokenizer
  maxTokensCap : Int
  promptCharsCap : Int
  tokenFeatureCap : Int
  requestTimeoutS : PyFloat
  sloMs : K

variable {K : Type} [Field K] [LinearOrder K] [FloorRing K]

/-! ## Error replies -/

/-- The body of `_openai_error`. -/
def errorBody (message errType : String) (code : Option String) : Json :=
  .obj [("error", .obj ([("message", .str message), ("type", .str errType)] ++
    match code with
    | some c => [("code", .str c)]
    | none => []))]

/-- `_openai_error`. -/
def openaiError (message : String) (status : Nat) (errType : String) (code : Option String) : Co K (JsonResponse K) :=
  jsonResponse { status := status, content := errorBody message errType code }

/-- The error of a rejected admission. -/
def rejectionBody (e : AdmissionError) : Json := errorBody e.message "dio_admission_rejected" (some "service_unavailable")

def retryAfter (e : AdmissionError) : Dict String String := [("Retry-After", toString e.retryAfterSec)]

/-- `_ndjson_error`. -/
def ndjsonError (message : String) : Co K Unit := yield (.ndjson (.obj [("error", .str message), ("done", .bool true)]))

/-- Yield the frames in order. -/
def yieldAll (frames : List Frame) : Co K Unit := Prog.forEach yield frames

/-! ## Shared phases -/

/-- The head of every proxy: read the prompt and the feature, and ask the scheduler for a worker. -/
def admission {α : Type} (G : DioGateway K) (body : Obj) (tier : String) (allowed : Option (List String))
    (reject : AdmissionError → Co K α) (accept : String → Int → String → RoutingDecision K → Co K α) : Co K α := do
  let prompt ← py (extractPrompt G.U body)
  let tokens ← py (featureTokens G.U G.tokenizer G.tokenFeatureCap prompt body)
  match ← pick ⟨prompt, tier, some tokens, allowed⟩ with
  | .error e => reject e
  | .ok (w, d) => accept prompt tokens w d

/-- `except Exception as e: release; raise HTTPException(502, ...)` around a call upstream. -/
def orRelease {α : Type} (w : String) (p : Co K α) : Co K α := do
  match ← p.attempt with
  | .ok a => return a
  | .error (.exception f) => do
    release w
    Prog.raise (.badGateway w f)
  | .error e => Prog.raise e

/-- `if status >= 500 and self.scheduler.note_failure(worker_id): log...`. -/
def noteServerError (w : String) (status : Nat) : Co K Unit :=
  if status ≥ 500 then do
    let _ ← noteFailure w
    return ()
  else return ()

/-- Milliseconds since `t0`. -/
def elapsedMs (t0 : K) : Co K K := do
  let t ← perfCounter
  return (t - t0) * 1000

/-! ## JSON -/

section Json

variable (G : DioGateway K)

/-- `forward_chat` or `forward_completions` on the pool. -/
def forwardTo (n : Attempt) (w : String) (path : Path) (body : Obj) : Co K UpstreamResponse := do
  let b ← py ((G.pool.get? w).elim (.error .keyError) .ok)
  let request ← py (b.forward G.U path body G.requestTimeoutS)
  post n request

/-- The completions body a chat request falls back to. -/
def fallbackBody (body : Obj) (prompt : String) : Obj :=
  [("model", (Dict.get? body "model").getD .null), ("prompt", .str prompt),
    ("max_tokens", (Dict.get? body "max_tokens").getD (.int 64)),
    ("temperature", (Dict.get? body "temperature").getD (.float (.fin (7 / 10))))]

/-- The upstream exchange: an engine without a chat route is asked for a completion. -/
def exchange (w : String) (body : Obj) (path : Path) (prompt : String) : Co K UpstreamResponse := do
  let resp ← forwardTo G .first w path body
  if resp.status = 404 ∧ path = .chat then forwardTo G .again w .completions (fallbackBody body prompt)
  else return resp

/-- The text and details of a TGI reply. -/
def tgiParts : Json → Except PyErr (Json × Json)
  | .arr (r :: _) => do
    let text := (← r.get "generated_text").orElse (.str "")
    return (text, ← r.get "details")
  | .obj kvs =>
    let text := (((Dict.get? kvs "generated_text").getD .null).orElse ((Dict.get? kvs "text").getD .null)).orElse (.str "")
    .ok (text, (Dict.get? kvs "details").getD .null)
  | _ => .ok (.str "", .null)

/-- The number of generated tokens a TGI reply reports, if it is positive. -/
def reportedGenerated : Json → Option Json
  | .obj details =>
    match (Dict.get? details "generated_tokens").getD .null with
    | .int n => if 0 < n then some (.int n) else none
    | .bool true => some (.bool true)
    | _ => none
  | _ => none

/-- The numeric value of a token count. -/
def countOf : Json → Int
  | .int n => n
  | .bool b => if b then 1 else 0
  | _ => 0

/-- `tgi_generate_to_openai_chat`, at two readings of the clock. -/
def tgiGenerateToOpenaiChat (text completionTokens model : Json) (promptTokens : Int) (now now' : K) : Json :=
  let promptN := max 0 promptTokens
  let id := truncate (now * 1000)
  .obj [("id", .str s!"chatcmpl-tgi-{id}"), ("object", .str "chat.completion"), ("created", .int (truncate now')),
    ("model", model),
    ("choices", .arr [.obj [("index", .int 0),
      ("message", .obj [("role", .str "assistant"), ("content", text)]), ("finish_reason", .str "stop")]]),
    ("usage", .obj [("prompt_tokens", .int promptN), ("completion_tokens", completionTokens),
      ("total_tokens", .int (promptN + countOf completionTokens))])]

/-- The completion tokens of a TGI reply: reported, or guessed from the text's length. -/
def tgiCompletionTokens (text details : Json) : Except PyErr Json :=
  match reportedGenerated details with
  | some n => .ok n
  | none => do return .int (max 1 ((← text.len) / 4 : Int))

/-- The reply of a TGI engine in OpenAI shape. -/
def normalizeTgi (data model : Json) (promptTokens : Int) : Co K Json := do
  let (text, details) ← py (tgiParts data)
  let completionTokens ← py (tgiCompletionTokens text details)
  let now ← time
  let now' ← time
  return tgiGenerateToOpenaiChat text completionTokens model promptTokens now now'

/-- The token count of a reply's usage block. -/
def reportedTokens (prompt : String) (data : Json) : Except PyErr (Option Int) := do
  let usage ← match data with
    | .obj kvs => .ok (((Dict.get? kvs "usage").getD .null).orElse (.obj []))
    | _ => .ok (.obj [])
  let total ← usage.get "total_tokens"
  if total.truthy then
    return some (← total.toInt G.U)
  else
    let completion ← usage.get "completion_tokens"
    if completion.truthy then return some (max 1 (prompt.length / 4 : Int) + (← completion.toInt G.U))
    else return none

/-- The name a normalised TGI reply reports (`backend.model or body.get("model") or "tgi"`). -/
def tgiModel (b : Backend) (body : Obj) : Json :=
  ((Json.str (b.ownModel.getD "")).orElse ((Dict.get? body "model").getD .null)).orElse (.str "tgi")

/-- The reply in OpenAI shape: a successful TGI chat is translated. -/
def normalized (b : Backend) (body : Obj) (path : Path) (prompt : String) (status : Nat) (data : Json) : Co K Json :=
  if status < 400 ∧ b.apiStyle = .tgiGenerate ∧ path = .chat then
    normalizeTgi data (tgiModel b body) (promptTokens G.tokenizer prompt)
  else return data

/-- What is read of the upstream reply inside `try`. -/
def parseReply (b : Backend) (body : Obj) (path : Path) (prompt : String) (resp : UpstreamResponse) :
    Co K (Json × Option Int) := do
  let data ← py (resp.json.elim (.error .valueError) .ok)
  let data ← normalized G b body path prompt resp.status data
  let reported ← py (reportedTokens G prompt data)
  return (data, reported)

/-- The reply's data and token count: its text alone when reading it raises an `Exception`. -/
def readReply (b : Backend) (body : Obj) (path : Path) (prompt : String) (resp : UpstreamResponse) :
    Co K (Json × Option Int) := do
  match ← (parseReply G b body path prompt resp).attempt with
  | .ok r => return r
  | .error _ => return (.obj [("raw", .str resp.text)], none)

/-- The routing headers of a JSON reply. -/
def routingHeaders (w : String) (e2eMs : K) : Dict String String :=
  [("X-DIO-Backend", w), ("X-DIO-E2E-Ms", fixed1 e2eMs), ("X-DIO-Budget-Ms", fixed0 G.sloMs),
    ("X-DIO-Over-Budget", if e2eMs > G.sloMs then "1" else "0")]

/-- The reply to the client, annotated with the routing when it is a success. -/
def annotate (w : String) (b : Backend) (d : RoutingDecision K) (e2eMs : K) (tokens : Int) (status : Nat)
    (data : Json) (reported : Option Int) : JsonResponse K :=
  if status ≥ 400 then { status := status, content := data }
  else
    match data with
    | .obj kvs =>
      { status := 200
        content := .obj (Dict.erase kvs "dio")
        dio := some ⟨w, b.baseUrl, b.apiStyle, round2 e2eMs, tokens, reported, G.sloMs, decide (e2eMs > G.sloMs), d⟩
        headers := routingHeaders G w e2eMs }
    | data => { status := 200, content := data, headers := routingHeaders G w e2eMs }

/-- What follows a finished exchange: read the reply, close the request, answer. -/
def settle (w : String) (d : RoutingDecision K) (t0 : K) (tokens : Int) (body : Obj) (path : Path) (prompt : String)
    (resp : UpstreamResponse) : Co K (JsonResponse K) := do
  let e2eMs ← elapsedMs t0
  let b ← py ((G.pool.get? w).elim (.error .keyError) .ok)
  let (data, reported) ← readReply G b body path prompt resp
  -- an error status is an outcome too: feedback with success off, not release
  noteServerError w resp.status
  feedback w e2eMs tokens (resp.status < 400)
  jsonResponse (annotate G w b d e2eMs tokens resp.status data reported)

/-- `_proxy_json` once the request is admitted. -/
def jsonAdmitted (body : Obj) (path : Path) (prompt : String) (tokens : Int) (w : String) (d : RoutingDecision K) :
    Co K (JsonResponse K) := do
  let t0 ← perfCounter
  let resp ← orRelease w (exchange G w body path prompt)
  settle G w d t0 tokens body path prompt resp

/-- `_proxy_json`. -/
def proxyJson (body : Obj) (path : Path) (tier : String) (allowed : Option (List String)) : Co K (JsonResponse K) :=
  admission G body tier allowed
    (fun e => jsonResponse { status := 503, content := rejectionBody e, headers := retryAfter e })
    (jsonAdmitted G body path)

end Json

/-! ## Streams -/

section Stream

variable (G : DioGateway K)

/-- `b.timeout_s or self.config.request_timeout_s`. -/
def orTimeout (timeoutS : Option PyFloat) (requestTimeoutS : PyFloat) : PyFloat :=
  match timeoutS with
  | some x => if x = .fin 0 then requestTimeoutS else x
  | none => requestTimeoutS

/-- The request built for a stream. -/
def streamRequest (b : Backend) (path : Path) (payload : Obj) : HttpRequest :=
  { url := match path with
      | .chat => b.chatUrl
      | .completions => b.completionsUrl
    headers := b.authHeaders
    timeout := orTimeout b.timeoutS G.requestTimeoutS
    payload := payload }

/-- The body of a stream: `stream` set, and the backend's own model. -/
def streamPayload (b : Backend) (body : Obj) : Obj := b.setModel (Dict.set body "stream" (.bool true))

/-- The upstream answered with an error status: read it out and close the request. -/
def refused (w : String) (t0 : K) (tokens : Int) (status : Nat) : Co K (List UInt8) := do
  -- neither call is guarded: when one raises, the feedback is never reached
  let raw ← aread .refused
  aclose .refused
  feedback w (← elapsedMs t0) tokens false
  noteServerError w status
  return raw

/-- The handlers of a generator's `try`: an `Exception` is reported in the stream. -/
def onException (w : String) (report : String → List Frame) : Except Exn Unit → Co K Unit
  | .ok () => return ()
  | .error (.exception f) => do
    let _ ← noteFailure w
    yieldAll (report f.text)
  | .error e => Prog.raise e

/-- `client_gone`. -/
def cancelled? : Except Exn Unit → Bool
  | .error .cancelled => true
  | _ => false

/-- `finally`: close the upstream stream and the request. -/
def closeOut (w : String) (t0 : K) (tokens : Int) (clientGone streamOk : Bool) : Co K Unit := do
  let e2eMs ← elapsedMs t0
  -- when this raises, neither call below is made
  aclose .final
  if clientGone then release w else feedback w e2eMs tokens streamOk

/-- The body of `try`, with `stream_ok`: set between reading the stream and its closing frames. -/
def tryStream {α : Type} (read : Co K α) (finish : α → Co K Unit) : Co K (Bool × Except Exn Unit) := do
  match ← read.attempt with
  | .ok a => return (true, ← (finish a).attempt)
  | .error e => return (false, .error e)

/-- `try ... except ... finally` of a generator that relays a stream. -/
def relayed {α : Type} (w : String) (t0 : K) (tokens : Int) (read : Co K α) (finish : α → Co K Unit)
    (report : String → List Frame) : Co K Unit := do
  let (streamOk, outcome) ← tryStream read finish
  -- the report yields, so it can be interrupted on its own
  let outcome' ← (onException w report outcome).attempt
  closeOut w t0 tokens (cancelled? outcome) streamOk
  Prog.ofExcept outcome'

/-- `headers` of a stream that was opened. -/
def streamHeaders (w : String) (d : RoutingDecision K) : Dict String String :=
  [("X-DIO-Backend", w), ("Cache-Control", "no-cache"), ("X-DIO-Budget-Ms", fixed0 G.sloMs),
    ("X-DIO-Predicted-Ms", fixed1 d.totalMs)]

/-- A streaming handler once the request is admitted: open the stream, report an error status, or
hand the stream over. -/
def openedStream (w : String) (tokens : Int) (request : Backend → HttpRequest) (opening : Backend → Co K Nat)
    (refuse : List UInt8 → Nat → Co K (Reply K)) (accept : K → Co K (Reply K)) : Co K (Reply K) := do
  let b ← py ((G.pool.get? w).elim (.error .keyError) .ok)
  let t0 ← perfCounter
  buildRequest .first (request b)
  let status ← orRelease w (opening b)
  if status ≥ 400 then do
    let raw ← refused w t0 tokens status
    refuse raw status
  else accept t0

/-! ### OpenAI streams -/

/-- Relay the chunks as they come. -/
def relayChunks : Co K Unit := do
  let chunks ← aiterBytes
  yieldAll (chunks.map .bytes)
  iterEnd

/-- What a broken OpenAI stream ends with. -/
def sseReport (text : String) : List Frame :=
  [.event (.obj [("error", .obj [("message", .str ("upstream stream failed: " ++ text)),
    ("type", .str "dio_stream_error")])]), .done]

/-- The JSON content an engine's error text is answered with. -/
def errorContent (text : String) : Json :=
  match loads text with
  | .ok content => content
  | .error _ => .obj [("error", .obj [("message", .str text), ("type", .str "backend_error")])]

/-- `raw.decode("utf-8", errors="replace")`. -/
def decodeText (raw : List UInt8) : String := String.ofList (Text.Utf8.decode raw)

/-- The reply to a refused OpenAI stream. -/
def relayRefusal (raw : List UInt8) (status : Nat) : Co K (Reply K) := do
  return .json (← jsonResponse { status := status, content := errorContent (decodeText raw) })

/-- The generator of `_relay_stream`. -/
def relayGen (w : String) (t0 : K) (tokens : Int) : Co K Unit :=
  relayed w t0 tokens relayChunks (fun _ => Prog.ret ()) sseReport

/-- `_relay_stream` once the request is admitted. -/
def relayAdmitted (body : Obj) (path : Path) (mediaType : String) (_prompt : String) (tokens : Int) (w : String)
    (d : RoutingDecision K) : Co K (Reply K) :=
  openedStream G w tokens (fun b => streamRequest G b path (streamPayload b body)) (fun _ => send .first)
    relayRefusal (fun t0 => streamingResponse 200 mediaType (streamHeaders G w d) (relayGen w t0 tokens))

/-- `_relay_stream`. -/
def relayStream (body : Obj) (path : Path) (tier : String) (allowed : Option (List String)) (mediaType : String) :
    Co K (Reply K) :=
  admission G body tier allowed
    (fun e => streamingResponse 503 mediaType (retryAfter e) (yieldAll [.event (rejectionBody e), .done]))
    (relayAdmitted G body path mediaType)

/-- `_proxy_stream`. -/
def proxyStream (body : Obj) (path : Path) (tier : String) (allowed : Option (List String)) : Co K (Reply K) :=
  relayStream G body path tier allowed "text/event-stream"

/-! ### Ollama streams -/

/-- The body of an Ollama stream: OpenAI engines are asked for a usage chunk. -/
def ollamaPayload (b : Backend) (body : Obj) : Obj :=
  let payload := streamPayload b body
  if b.apiStyle = .openai ∧ Dict.contains payload "stream_options" = false then
    Dict.set payload "stream_options" (.obj [("include_usage", .bool true)])
  else payload

/-- Open the stream; an engine that rejects `stream_options` is asked again without it. -/
def openOllama (b : Backend) (path : Path) (payload : Obj) : Co K Nat := do
  let status ← send .first
  if status = 400 ∧ Dict.contains payload "stream_options" then do
    let _ ← aread .retry
    aclose .retry
    buildRequest .again (streamRequest G b path (Dict.erase payload "stream_options"))
    send .again
  else return status

/-- Translate the chunks one by one until the stream or the translation ends. The frames of a chunk
are yielded in the order in which its lines produce them. -/
def translateChunks (p : TranslParams) (st : Text.Lines.Feed Transl) :
    List (List UInt8) → Co K (Text.Lines.Feed Transl)
  | [] => do
    iterEnd
    return st
  | chunk :: chunks => do
    let st' := onChunk G.U p st chunk
    yieldAll ((st'.state.out.drop st.state.out.length).map .ndjson)
    -- [DONE] leaves the rest of the stream unread
    if st'.stopped then return st' else translateChunks p st' chunks

/-- The `try` of the generator up to `stream_ok = True`. -/
def readOllama (p : TranslParams) : Co K (Text.Lines.Feed Transl) := do
  let chunks ← aiterBytes
  translateChunks G p Transl.fresh chunks

/-- The `try` of the generator after `stream_ok = True`. -/
def finishOllama (p : TranslParams) (st : Text.Lines.Feed Transl) : Co K Unit := do
  let _ ← perfCounter
  yield (.ndjson (finalFrame p st.state))

def ndjsonReport (text : String) : List Frame := [.ndjson (errorFrame text)]

/-- The generator of `_proxy_ollama_stream`. -/
def ollamaGen (w : String) (t0 : K) (tokens : Int) (p : TranslParams) : Co K Unit :=
  relayed w t0 tokens (readOllama G p) (finishOllama p) ndjsonReport

/-- The message an engine's error reply gives. -/
def parsedMessage (text : String) : Except PyErr Json := do
  let parsed ← loads text
  let error ← parsed.get "error"
  let message ← match error with
    | .obj e => (Json.obj e |>.orElse (.obj [])).get "message"
    | other => .ok other
  return message.orElse (.str text)

/-- The text of the error line of a refused Ollama stream. -/
def refusalMessage (text : String) (status : Nat) : String :=
  match parsedMessage text with
  | .ok message => str G.U message
  | .error _ => if text = "" then s!"backend returned HTTP {status}" else text

/-- The reply to a refused Ollama stream. -/
def ollamaRefusal (raw : List UInt8) (status : Nat) : Co K (Reply K) :=
  streamingResponse status "application/x-ndjson" []
    (ndjsonError (refusalMessage G (strip G.U (decodeText raw)) status))

/-- What the translation of a stream for `body` is given. -/
def translParams (body : Obj) (isChat : Bool) (prompt : String) : TranslParams :=
  ⟨isChat, ((Dict.get? body "model").getD .null).orElse (.str "dio-default"), promptTokens G.tokenizer prompt⟩

/-- `_proxy_ollama_stream` once the request is admitted. -/
def ollamaAdmitted (body : Obj) (path : Path) (isChat : Bool) (prompt : String) (tokens : Int) (w : String)
    (d : RoutingDecision K) : Co K (Reply K) :=
  openedStream G w tokens (fun b => streamRequest G b path (ollamaPayload b body))
    (fun b => openOllama G b path (ollamaPayload b body)) (ollamaRefusal G)
    (fun t0 => streamingResponse 200 "application/x-ndjson" (streamHeaders G w d)
      (ollamaGen G w t0 tokens (translParams G body isChat prompt)))

/-- `_proxy_ollama_stream`. -/
def proxyOllamaStream (body : Obj) (path : Path) (tier : String) (isChat : Bool) (allowed : Option (List String)) :
    Co K (Reply K) :=
  admission G body tier allowed
    (fun e => streamingResponse 503 "application/x-ndjson" (retryAfter e) (ndjsonError e.message))
    (ollamaAdmitted G body path isChat)

end Stream

end Dio.Gateway
