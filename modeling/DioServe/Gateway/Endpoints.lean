/-
The inference endpoints: validation, the prompt cap, model resolution and the proxies, in the OpenAI
dialect (`/v1/chat/completions`, `/v1/completions`) and in Ollama's (`/api/chat`, `/api/generate`);
and the system they form with the scheduler.
-/
import DioServe.Effect.System
import DioServe.Gateway.Handlers
import Mathlib.Data.List.Infix

namespace Dio.Gateway

open Data Py Effect Scheduler

variable {K : Type} [Field K] [LinearOrder K] [FloorRing K]

/-! ## OpenAI -/

section Openai

variable (G : DioGateway K)

/-- An OpenAI endpoint. -/
def openaiEndpoint (path : Path) (body : Obj) : Co K (Reply K) := do
  match validateOpenaiBody G.U (.obj body) path G.maxTokensCap with
  | some problem => return .json (← openaiError problem 400 "invalid_request_error" (some "invalid_body"))
  | none =>
    match ← py (promptWithinCap G.U body G.promptCharsCap) with
    | some message => return .json (← openaiError message 413 "invalid_request_error" (some "request_too_large"))
    | none => do
      let allowed ← py (resolveModelBackends G.U G.pool G.modelMap (modelHint body))
      if allowed = some [] then do
        let name := str G.U (modelHint body)
        return .json (← openaiError s!"The model '{name}' does not exist." 404 "invalid_request_error"
          (some "model_not_found"))
      else if ((Dict.get? body "stream").getD .null).truthy then proxyStream G body path "small" allowed
      else return .json (← proxyJson G body path "small" allowed)

/-- `POST /v1/chat/completions`. -/
def chatCompletions (body : Obj) : Co K (Reply K) := openaiEndpoint G .chat body

/-- `POST /v1/completions`. -/
def completions (body : Obj) : Co K (Reply K) := openaiEndpoint G .completions body

end Openai

/-! ## Ollama -/

/-- `k in j`. -/
def hasMember (k : String) : Json → Except PyErr Bool
  | .obj kvs => .ok (Dict.contains kvs k)
  | .arr xs => .ok (xs.any (isStr k))
  | .str s => .ok (decide (k.toList <:+: s.toList))
  | _ => .error .typeError

/-- `j[k]` of a text `k`. -/
def item (k : String) : Json → Except PyErr Json
  | .obj kvs => (Dict.get? kvs k).elim (.error .keyError) .ok
  | _ => .error .typeError

/-- `_ollama_done_reason` of a list of choices. -/
def doneReason (choices : Json) : Except PyErr String :=
  if choices.truthy then do return ollamaDoneReason (← (← choices.head).get "finish_reason")
  else .ok "stop"

/-- The message of the first choice. -/
def firstMessage (choices : Json) : Except PyErr (String × Json) := do
  let empty : Json := .obj [("role", .str "assistant"), ("content", .str "")]
  if choices.truthy then
    let choice ← choices.head
    if ← hasMember "message" choice then return ("message", ← item "message" choice) else return ("message", empty)
  else return ("message", empty)

/-- The text of the first choice. -/
def firstText (choices : Json) : Except PyErr (String × Json) :=
  if choices.truthy then do return ("response", ← (← choices.head).getD "text" (.str ""))
  else .ok ("response", .str "")

/-- An Ollama reply, from an OpenAI one; `generated` reads the member with the generated text. -/
def ollamaReply (generated : Json → Except PyErr (String × Json)) (modelName data : Json) : Except PyErr Json := do
  let choices := (← data.get "choices").orElse (.arr [])
  let (member, value) ← generated choices
  let usage := (← data.get "usage").orElse (.obj [])
  let reason ← doneReason choices
  let promptEval ← usage.getD "prompt_tokens" (.int 0)
  let eval ← usage.getD "completion_tokens" (.int 0)
  return .obj [("model", modelName.orElse (.str "dio-default")), (member, value), ("done", .bool true),
    ("done_reason", .str reason), ("load_duration", .int 1000000), ("prompt_eval_count", promptEval),
    ("eval_count", eval)]

section Ollama

variable (G : DioGateway K)

/-- `_routing_headers`. -/
def forwardedHeaders (headers : Dict String String) : Dict String String :=
  headers.filter fun p => (p.1 = "X-DIO-Backend" ∨ p.1 = "X-DIO-E2E-Ms") ∧ p.2 ≠ ""

/-- An error in Ollama's shape. -/
def ollamaError (message : String) (status : Nat) : Co K (Reply K) := do
  return .json (← jsonResponse { status := status, content := .obj [("error", .str message)] })

/-- The translated reply of a request that is not streamed. -/
def ollamaJson (generated : Json → Except PyErr (String × Json)) (openaiBody : Obj) (path : Path) (modelName : Json)
    (allowed : Option (List String)) : Co K (Reply K) := do
  let resp ← proxyJson G openaiBody path "small" allowed
  if resp.status ≥ 400 then return .json resp
  else do
    let content ← py (ollamaReply generated modelName resp.content)
    return .json (← jsonResponse { status := 200, content := content, headers := forwardedHeaders resp.headers })

/-- An Ollama endpoint: `toOpenai` translates its body, `generated` reads the text of a reply. -/
def ollamaEndpoint (path : Path) (isChat : Bool) (toOpenai : Obj → Except PyErr Obj)
    (generated : Json → Except PyErr (String × Json)) (body : Obj) : Co K (Reply K) := do
  match validateOpenaiBody G.U (.obj body) path G.maxTokensCap with
  | some problem => ollamaError problem 400
  | none =>
    match ← py (promptWithinCap G.U body G.promptCharsCap) with
    | some message => ollamaError message 413
    | none => do
      let allowed ← py (resolveModelBackends G.U G.pool G.modelMap (modelHint body))
      if allowed = some [] then
        let name := str G.U (modelHint body)
        ollamaError s!"model '{name}' not found" 404
      else do
        let openaiBody ← py (toOpenai body)
        if ((Dict.get? body "stream").getD (.bool true)).truthy then
          proxyOllamaStream G (Dict.set openaiBody "stream" (.bool true)) path "small" isChat allowed
        else ollamaJson G generated openaiBody path (modelHint body) allowed

/-- `POST /api/chat`. -/
def ollamaChat (body : Obj) : Co K (Reply K) :=
  ollamaEndpoint G .chat true (ollamaChatBody G.U) firstMessage body

/-- `POST /api/generate`. -/
def ollamaGenerate (body : Obj) : Co K (Reply K) :=
  ollamaEndpoint G .completions false (ollamaGenerateBody G.U) firstText body

end Ollama

/-! ## The system -/

/-- The inference endpoints. -/
inductive Endpoint
  | chatCompletions | completions | ollamaChat | ollamaGenerate
  deriving DecidableEq

/-- The handler of an endpoint. -/
def Endpoint.handle (G : DioGateway K) : Endpoint → Obj → Co K (Reply K)
  | .chatCompletions => Gateway.chatCompletions G
  | .completions => Gateway.completions G
  | .ollamaChat => Gateway.ollamaChat G
  | .ollamaGenerate => Gateway.ollamaGenerate G

/-- What the calls on the scheduler do to it. -/
def schedulerSem (cfg : Cfg K) : (c : Call K) → Option (State K → c.Res × State K)
  | .pick a => some fun s => Scheduler.pick cfg s a
  | .feedback w e2eMs tokens success => some fun s => ((), Scheduler.feedback cfg s w e2eMs tokens success)
  | .release w => some fun s => ((), Scheduler.release s w)
  | .noteFailure w => some fun s => Scheduler.noteFailure s w 3
  | _ => none

/-- What the health, metrics and registration tasks do to the scheduler. -/
inductive Background (cfg : Cfg K) (s : State K) : State K → Prop
  | setHealthy (w : String) (healthy : Bool) : Background cfg s (Scheduler.setHealthy s w healthy)
  | setVram (w : String) (freeMb : K) : Background cfg s (Scheduler.setVram s w freeMb)
  | setEngineMetrics (w : String) (snap : EngineSnapshot K) : Background cfg s (Scheduler.setEngineMetrics s w snap)
  | register (w tier : String) (totalVramMb : K) (freeVramMb : Option K) :
      Background cfg s (Scheduler.register cfg s w tier totalVramMb freeVramMb)

/-- The gateway: any number of requests to its endpoints at any time, over one scheduler. -/
def machine (G : DioGateway K) (cfg : Cfg K) : Machine (sig K) Exn (State K) where
  sem := schedulerSem cfg
  handles p := ∃ (e : Endpoint) (body : Obj), p = serve (e.handle G body)
  background := Background cfg

end Dio.Gateway
