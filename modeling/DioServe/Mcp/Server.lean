/-
The MCP server (`mcp.py`): JSON-RPC 2.0 over stdio. `handle_request` answers one message, by its
method; `handle_message` a message or a batch. What the tools do is their environment's: a call of one
returns a value, raises or is cancelled.
-/
import DioServe.Gateway.Endpoints

namespace Dio.Mcp

open Data Py Effect Gateway

/-! ## Tools -/

/-- A tool that is awaited, with the arguments handed on. -/
inductive ToolCall
  | getModels
  | predictLatency (prompt : String) (model tokens : Json)
  | routePrompt (prompt : String) (model : Json) (maxTokens : Int) (temperature : PyFloat)
  | clusterStatus

abbrev toolSig : Sig := ⟨ToolCall, fun _ => Outcome Json⟩

/-- A coroutine of the server. -/
abbrev Rpc := Prog toolSig Exn

def awaitTool (c : ToolCall) : Rpc Json := Prog.ask (S := toolSig) c Outcome.toExcept

/-- A computation with the built-ins. -/
def builtin {α : Type} (x : Except PyErr α) : Rpc α := Prog.ofExcept (x.mapError fun e => .exception (.python e))

/-- The call was cancelled. -/
def wasCancelled (ev : Event toolSig) : Bool := Outcome.isCancelled (ev.res : Outcome Json)

/-- `DIOMCPServer`: the interpreter's tables, and `json.dumps` with an indent of 2. -/
structure DIOMCPServer where
  U : Unicode
  dumps : Json → String

/-! ## Replies -/

def reply (msgId result : Json) : Json := .obj [("jsonrpc", .str "2.0"), ("id", msgId), ("result", result)]

def rpcError (msgId : Json) (code : Int) (message : String) : Json :=
  .obj [("jsonrpc", .str "2.0"), ("id", msgId), ("error", .obj [("code", .int code), ("message", .str message)])]

/-- The answer to what is no request. -/
def invalidRequest : Json := rpcError .null (-32600) "Invalid Request"

/-- `SUPPORTED_PROTOCOL_VERSIONS`. -/
def supportedProtocolVersions : List String := ["2025-06-18", "2024-11-05"]

/-- `DEFAULT_PROTOCOL_VERSION`. -/
def defaultProtocolVersion : String := "2024-11-05"

def property (type description : String) : Json := .obj [("type", .str type), ("description", .str description)]

def tool (name description : String) (properties : Obj) (required : List String) : Json :=
  .obj [("name", .str name), ("description", .str description),
    ("inputSchema", .obj ([("type", .str "object"), ("properties", .obj properties)] ++
      if required = [] then [] else [("required", .arr (required.map .str))]))]

/-- The result of `tools/list`. -/
def toolsList : Json := .obj [("tools", .arr [
  tool "dio_get_models" "Query DIO gateway for available LLM models, active backends, and cluster health." [] [],
  tool "dio_predict_latency" ("Get latency and cost predictions before sending requests. Predicts queue delay, " ++
      "execution latency, and optimal backend using DIO's dual-timescale NLMS filter.")
    [("prompt", property "string" "The prompt text or query to estimate"),
      ("model", property "string" "Target model name (optional)"),
      ("tokens", property "integer" "Estimated token count (optional)")] ["prompt"],
  tool "dio_route_prompt" ("Route a prompt through DIO's intelligent NLMS scheduler to the optimal backend and " ++
      "return the completion.")
    [("prompt", property "string" "Prompt text to send"), ("model", property "string" "Target model name (optional)"),
      ("max_tokens", property "integer" "Maximum tokens to generate (default: 256)"),
      ("temperature", property "number" "Sampling temperature (default: 0.7)")] ["prompt"],
  tool "dio_cluster_status" ("Get live telemetry from the DIO cluster, including learned worker slopes, KV-cache " ++
      "pressure, and admission goodput statistics.") [] []])]

section Handle

variable (S : DIOMCPServer)

/-- The result of `initialize`. -/
def initializeResult (params : Obj) : Json :=
  let requested := strip S.U (str S.U (((Dict.get? params "protocolVersion").getD .null).orElse (.str "")))
  let negotiated := if requested ∈ supportedProtocolVersions then requested else defaultProtocolVersion
  .obj [("protocolVersion", .str negotiated), ("capabilities", .obj [("tools", .obj [])]),
    ("serverInfo", .obj [("name", .str "dio-mcp"), ("version", .str "0.4.2")])]

/-- The value a tool returns, none for a tool that is not known. -/
def runTool (toolName args : Json) : Rpc (Option Json) :=
  if isStr "dio_get_models" toolName then do return some (← awaitTool .getModels)
  else if isStr "dio_predict_latency" toolName then do
    let prompt ← builtin (args.getD "prompt" (.str ""))
    let model ← builtin (args.get "model")
    let tokens ← builtin (args.get "tokens")
    return some (← awaitTool (.predictLatency (str S.U prompt) model tokens))
  else if isStr "dio_route_prompt" toolName then do
    let prompt ← builtin (args.getD "prompt" (.str ""))
    let model ← builtin (args.get "model")
    let maxTokens ← builtin (args.getD "max_tokens" (.int 256) >>= Json.toInt S.U)
    let temperature ← builtin (args.getD "temperature" (.float (.fin (7 / 10))) >>= Json.toFloat S.U)
    return some (← awaitTool (.routePrompt (str S.U prompt) model maxTokens temperature))
  else if isStr "dio_cluster_status" toolName then do return some (← awaitTool .clusterStatus)
  else return none

/-- The result of a tool call: a text and whether it is an error. -/
def toolResult (text : String) (isError : Bool) : Json :=
  .obj [("content", .arr [.obj [("type", .str "text"), ("text", .str text)]]), ("isError", .bool isError)]

/-- The body of `try` for `tools/call`. -/
def tryTool (msgId : Json) (params : Obj) : Rpc Json := do
  let toolName := (Dict.get? params "name").getD .null
  let args := ((Dict.get? params "arguments").getD .null).orElse (.obj [])
  match ← runTool S toolName args with
  | some res => do
    let isError ← builtin (hasMember "error" res)
    return reply msgId (toolResult (S.dumps res) isError)
  | none => return rpcError msgId (-32601) ("Unknown tool '" ++ str S.U toolName ++ "'")

/-- `tools/call`: an `Exception` is the result's text. -/
def callTool (msgId : Json) (params : Obj) : Rpc Json := do
  match ← (tryTool S msgId params).attempt with
  | .ok r => return r
  | .error (.exception f) => return reply msgId (toolResult ("Tool execution failed: " ++ f.text) true)
  | .error e => Prog.raise e

/-- The method of a request that says that the client is initialized. -/
def initializedMethod (method : Json) : Bool := isStr "notifications/initialized" method || isStr "initialized" method

/-- A request with an id, by its method. -/
def dispatch (method msgId : Json) (params : Obj) : Rpc (Option Json) :=
  if isStr "initialize" method then return some (reply msgId (initializeResult S params))
  else if initializedMethod method then return none
  else if isStr "ping" method then return some (reply msgId (.obj []))
  else if isStr "tools/list" method then return some (reply msgId toolsList)
  else if isStr "tools/call" method then do return some (← callTool S msgId params)
  else return some (rpcError msgId (-32601) ("Method '" ++ str S.U method ++ "' not supported"))

/-- `params`, when it is an object. -/
def paramsOf (req : Obj) : Obj :=
  match Dict.get? req "params" with
  | some (.obj params) => params
  | _ => []

/-- `handle_request`. -/
def handleRequest : Json → Rpc (Option Json)
  | .obj req =>
    match Dict.get? req "id" with
    -- a notification is not answered
    | none => return none
    | some msgId => dispatch S ((Dict.get? req "method").getD .null) msgId (paramsOf req)
  | _ => return some invalidRequest

/-- The replies to a batch. -/
def handleAll : List Json → Rpc (List Json)
  | [] => return []
  | m :: ms => do
    let r ← handleRequest S m
    let rs ← handleAll ms
    return r.toList ++ rs

/-- `handle_message`. -/
def handleMessage : Json → Rpc (Option Json)
  | .arr [] => return some invalidRequest
  | .arr (m :: ms) => do
    let replies ← handleAll S (m :: ms)
    return if replies = [] then none else some (.arr replies)
  | msg => handleRequest S msg

end Handle

/-! ## The reply discipline -/

/-- The messages of a batch; what is no batch, or an empty one, is one message. -/
def elements : Json → List Json
  | .arr (m :: ms) => m :: ms
  | msg => [msg]

/-- What is sent for a message. -/
def frames (msg : Json) (r : Option Json) : List Json :=
  match msg, r with
  | .arr (_ :: _), some (.arr replies) => replies
  | .arr (_ :: _), _ => []
  | _, r => r.toList

/-- A message is answered: all but objects without an id are. -/
def expectsReply : Json → Bool
  | .obj req => Dict.contains req "id"
  | _ => true

/-- A reply answers a message. -/
def Answers : Json → Json → Prop
  | .obj req, .obj r => Dict.get? r "id" = Dict.get? req "id"
  | .obj _, _ => False
  | _, r => r = invalidRequest

/-- Handling ends, and what is sent are the answers to the messages that expect one, in their order. -/
def Disciplined (msg : Json) (x : Except Exn (Option Json)) : Prop :=
  ∃ r, x = .ok r ∧ List.Forall₂ Answers ((elements msg).filter expectsReply) (frames msg r) ∧
    (frames msg r = [] → r = none)

/-- A request with an id that says that the client is initialized. -/
def initializedRequest : Json → Bool
  | .obj req => Dict.contains req "id" && initializedMethod ((Dict.get? req "method").getD .null)
  | _ => false

/-! ## One message -/

/-- An execution was cancelled where a tool was; otherwise it raises `Exception`s only. -/
def Cancellable {α : Type} (t : List (Event toolSig)) (x : Except Exn α) : Prop :=
  (x = .error .cancelled ∧ ∃ ev ∈ t, wasCancelled ev = true) ∨
    ((∀ ev ∈ t, wasCancelled ev = false) ∧ ∀ e, x = .error e → ∃ f, e = .exception f)

section Cancel

variable {α β : Type} {t : List (Event toolSig)}

theorem cancellable_ret {a : α} {x : Except Exn α} (h : (Prog.ret a : Rpc α).Exec t x) : Cancellable t x := by
  obtain ⟨rfl, rfl⟩ := h
  exact .inr ⟨List.forall_mem_nil _, fun e he => by cases he⟩

theorem cancellable_builtin {y : Except PyErr α} {x : Except Exn α} (h : (builtin y).Exec t x) : Cancellable t x := by
  obtain ⟨rfl, rfl⟩ := (Prog.exec_ofExcept _ _ _).1 h
  refine .inr ⟨List.forall_mem_nil _, fun e he => ?_⟩
  cases y with
  | ok a => cases he
  | error p => cases he; exact ⟨_, rfl⟩

theorem cancellable_awaitTool {c : ToolCall} {x : Except Exn Json} (h : (awaitTool c).Exec t x) : Cancellable t x := by
  obtain ⟨r, rfl, rfl⟩ := (Prog.exec_ask (S := toolSig) c _ _ _).1 h
  cases hr : (r : Outcome Json) with
  | returned j =>
    refine .inr ⟨fun ev hev => ?_, fun e he => by cases he⟩
    rw [List.mem_singleton.1 hev]; rfl
  | raised text =>
    refine .inr ⟨fun ev hev => ?_, fun e he => by cases he; exact ⟨_, rfl⟩⟩
    rw [List.mem_singleton.1 hev]; rfl
  | cancelled => exact .inl ⟨rfl, _, List.mem_singleton_self _, rfl⟩

theorem cancellable_bind {p : Rpc α} {f : α → Rpc β} (hp : ∀ t x, p.Exec t x → Cancellable t x)
    (hf : ∀ a t x, (f a).Exec t x → Cancellable t x) {x : Except Exn β} (h : (p >>= f).Exec t x) : Cancellable t x := by
  rcases (Prog.exec_bind p f t x).1 h with ⟨a, t₁, t₂, h₁, h₂, rfl⟩ | ⟨e, h₁, rfl⟩
  · rcases hp _ _ h₁ with ⟨hx, -⟩ | ⟨hno₁, -⟩
    · cases hx
    · rcases hf a _ _ h₂ with ⟨rfl, ev, hev, hc⟩ | ⟨hno₂, hexn⟩
      · exact .inl ⟨rfl, ev, List.mem_append_right _ hev, hc⟩
      · refine .inr ⟨fun ev hev => ?_, hexn⟩
        rcases List.mem_append.1 hev with hev | hev
        · exact hno₁ ev hev
        · exact hno₂ ev hev
  · rcases hp _ _ h₁ with ⟨hx, hc⟩ | ⟨hno, hexn⟩
    · cases hx; exact .inl ⟨rfl, hc⟩
    · exact .inr ⟨hno, fun e' he' => by cases he'; exact hexn e rfl⟩

end Cancel

section Request

variable {S : DIOMCPServer}

theorem cancellable_runTool {toolName args : Json} : ∀ t x, (runTool S toolName args).Exec t x → Cancellable t x := by
  intro t x h
  unfold runTool at h
  have hsome : ∀ {c : ToolCall} t x, (do return some (← awaitTool c) : Rpc (Option Json)).Exec t x → Cancellable t x :=
    fun t x => cancellable_bind (fun _ _ => cancellable_awaitTool) fun _ _ _ => cancellable_ret
  split_ifs at h
  · exact hsome _ _ h
  · exact cancellable_bind (fun _ _ => cancellable_builtin)
      (fun _ _ _ => cancellable_bind (fun _ _ => cancellable_builtin)
      fun _ _ _ => cancellable_bind (fun _ _ => cancellable_builtin) fun _ => hsome) h
  · exact cancellable_bind (fun _ _ => cancellable_builtin)
      (fun _ _ _ => cancellable_bind (fun _ _ => cancellable_builtin)
      fun _ _ _ => cancellable_bind (fun _ _ => cancellable_builtin) fun _ _ _ =>
        cancellable_bind (fun _ _ => cancellable_builtin) fun _ => hsome) h
  · exact hsome _ _ h
  · exact cancellable_ret h

/-- A request with an id, answered under that id. -/
def AnsweredUnder (msgId : Json) (j : Json) : Prop := ∃ r, j = .obj r ∧ Dict.get? r "id" = some msgId

theorem answeredUnder_reply (msgId result : Json) : AnsweredUnder msgId (reply msgId result) := ⟨_, rfl, rfl⟩

theorem answeredUnder_rpcError (msgId : Json) (code : Int) (message : String) :
    AnsweredUnder msgId (rpcError msgId code message) := ⟨_, rfl, rfl⟩

theorem exec_tryTool {msgId : Json} {params : Obj} {t : List (Event toolSig)} {x : Except Exn Json}
    (h : (tryTool S msgId params).Exec t x) : Cancellable t x ∧ ∀ j, x = .ok j → AnsweredUnder msgId j := by
  unfold tryTool at h
  constructor
  · refine cancellable_bind cancellable_runTool (fun res t x h => ?_) h
    cases res with
    | none => exact cancellable_ret h
    | some res => exact cancellable_bind (fun _ _ => cancellable_builtin) (fun _ _ _ => cancellable_ret) h
  · rintro j rfl
    obtain ⟨res, t₁, t₂, -, h₂, -⟩ := Prog.exec_bind_ok h
    cases res with
    | none =>
      obtain ⟨-, hj⟩ := h₂
      cases hj; exact answeredUnder_rpcError _ _ _
    | some res =>
      obtain ⟨isError, t₃, t₄, -, h₄, -⟩ := Prog.exec_bind_ok h₂
      obtain ⟨-, hj⟩ := h₄
      cases hj; exact answeredUnder_reply _ _

/-- A tool call is answered under its id, unless its tool was cancelled. -/
theorem exec_callTool {msgId : Json} {params : Obj} {t : List (Event toolSig)} {x : Except Exn Json}
    (h : (callTool S msgId params).Exec t x) : (x = .error .cancelled ∧ ∃ ev ∈ t, wasCancelled ev = true) ∨
      ((∀ ev ∈ t, wasCancelled ev = false) ∧ ∃ j, x = .ok j ∧ AnsweredUnder msgId j) := by
  unfold callTool at h
  obtain ⟨y, t₁, t₂, hy, h₂, rfl⟩ := (Prog.exec_attempt_bind _ _ _ _).1 h
  obtain ⟨hcancel, hanswer⟩ := exec_tryTool hy
  rcases hcancel with ⟨rfl, hc⟩ | ⟨hno, hexn⟩
  · obtain ⟨rfl, rfl⟩ := h₂
    rw [List.append_nil]
    exact .inl ⟨rfl, hc⟩
  · cases y with
    | ok j =>
      obtain ⟨rfl, rfl⟩ := h₂
      rw [List.append_nil]
      exact .inr ⟨hno, j, rfl, hanswer j rfl⟩
    | error e =>
      obtain ⟨f, rfl⟩ := hexn e rfl
      obtain ⟨rfl, rfl⟩ := h₂
      rw [List.append_nil]
      exact .inr ⟨hno, _, rfl, answeredUnder_reply _ _⟩

/-- One message is answered as it should be, unless it says with an id that the client is initialized:
that gets no reply. -/
def OneReply (m : Json) (r : Option Json) : Prop :=
  if expectsReply m && !initializedRequest m then ∃ j, r = some j ∧ Answers m j else r = none

theorem exec_handleRequest {m : Json} {t : List (Event toolSig)} {x : Except Exn (Option Json)}
    (h : (handleRequest S m).Exec t x) : (x = .error .cancelled ∧ ∃ ev ∈ t, wasCancelled ev = true) ∨
      ((∀ ev ∈ t, wasCancelled ev = false) ∧ ∃ r, x = .ok r ∧ OneReply m r) := by
  have hret : ∀ {r : Option Json}, (Prog.ret r : Rpc (Option Json)).Exec t x → OneReply m r →
      (x = .error .cancelled ∧ ∃ ev ∈ t, wasCancelled ev = true) ∨
        ((∀ ev ∈ t, wasCancelled ev = false) ∧ ∃ r, x = .ok r ∧ OneReply m r) := by
    rintro r ⟨rfl, rfl⟩ hone
    exact .inr ⟨List.forall_mem_nil _, r, rfl, hone⟩
  cases m with
  | obj req =>
    unfold handleRequest at h
    dsimp only at h
    cases hid : Dict.get? req "id" with
    | none =>
      rw [hid] at h
      refine hret h ?_
      have hno : expectsReply (.obj req) = false := by simp [expectsReply, Dict.contains, hid]
      unfold OneReply
      rw [hno]; rfl
    | some msgId =>
      rw [hid] at h
      have hyes : expectsReply (.obj req) = true := by simp [expectsReply, Dict.contains, hid]
      have hinit : initializedRequest (.obj req) = initializedMethod ((Dict.get? req "method").getD .null) := by
        simp [initializedRequest, Dict.contains, hid]
      have hone : ∀ {j : Json}, initializedMethod ((Dict.get? req "method").getD .null) = false →
          AnsweredUnder msgId j → OneReply (.obj req) (some j) := by
        rintro j hm ⟨r, rfl, hr⟩
        unfold OneReply
        rw [hyes, hinit, hm]
        exact ⟨_, rfl, hr.trans hid.symm⟩
      unfold dispatch at h
      generalize (Dict.get? req "method").getD .null = method at h hinit hone
      -- the two methods that say so are none of the others
      have hother : ∀ s : String, s ≠ "notifications/initialized" → s ≠ "initialized" → isStr s method = true →
          initializedMethod method = false := by
        intro s h₁ h₂ hs
        cases method with
        | str m =>
          obtain rfl : m = s := of_decide_eq_true hs
          simp [initializedMethod, isStr, h₁, h₂]
        | _ => cases hs
      split_ifs at h with hinitialize hinitialized hping hlist hcall
      · exact hret h (hone (hother _ (by decide) (by decide) hinitialize) (answeredUnder_reply _ _))
      · refine hret h ?_
        unfold OneReply
        rw [hinit, hinitialized, Bool.not_true, Bool.and_false, if_neg Bool.false_ne_true]
      · exact hret h (hone (by simpa using hinitialized) (answeredUnder_reply _ _))
      · exact hret h (hone (by simpa using hinitialized) (answeredUnder_reply _ _))
      · rcases (Prog.exec_bind _ _ _ _).1 h with ⟨j, t₁, t₂, h₁, h₂, rfl⟩ | ⟨e, h₁, rfl⟩
        · obtain ⟨rfl, rfl⟩ := h₂
          rw [List.append_nil]
          rcases exec_callTool h₁ with ⟨hx, -⟩ | ⟨hno, j', hj, hanswer⟩
          · cases hx
          · cases hj
            exact .inr ⟨hno, _, rfl, hone (by simpa using hinitialized) hanswer⟩
        · rcases exec_callTool h₁ with ⟨hx, hc⟩ | ⟨-, j', hj, -⟩
          · cases hx; exact .inl ⟨rfl, hc⟩
          · cases hj
      · exact hret h (hone (by simpa using hinitialized) (answeredUnder_rpcError _ _ _))
  | _ => exact hret h ⟨invalidRequest, rfl, rfl⟩

/-! ## Batches -/

/-- The replies to a batch are those of its messages. -/
theorem exec_handleAll : ∀ {ms : List Json} {t : List (Event toolSig)} {x : Except Exn (List Json)},
    (handleAll S ms).Exec t x → (x = .error .cancelled ∧ ∃ ev ∈ t, wasCancelled ev = true) ∨
      ((∀ ev ∈ t, wasCancelled ev = false) ∧
        ∃ rs, x = .ok rs ∧ List.Forall₂ Answers (ms.filter fun m => expectsReply m && !initializedRequest m) rs)
  | [], _, _, h => by
    obtain ⟨rfl, rfl⟩ := h
    exact .inr ⟨List.forall_mem_nil _, [], rfl, .nil⟩
  | m :: ms, t, x, h => by
    unfold handleAll at h
    rcases (Prog.exec_bind _ _ _ _).1 h with ⟨r, t₁, t', h₁, h', rfl⟩ | ⟨e, h₁, rfl⟩
    · rcases exec_handleRequest h₁ with ⟨hx, -⟩ | ⟨hno₁, r', hr, hone⟩
      · cases hx
      · cases hr
        rcases (Prog.exec_bind _ _ _ _).1 h' with ⟨rs, t₂, t₃, h₂, h₃, rfl⟩ | ⟨e, h₂, rfl⟩
        · obtain ⟨rfl, rfl⟩ := h₃
          rcases exec_handleAll h₂ with ⟨hx, -⟩ | ⟨hno₂, rs', hrs, hall⟩
          · cases hx
          · cases hrs
            refine .inr ⟨fun ev hev => ?_, _, rfl, ?_⟩
            · rw [List.append_nil] at hev
              rcases List.mem_append.1 hev with hev | hev
              · exact hno₁ ev hev
              · exact hno₂ ev hev
            · unfold OneReply at hone
              rw [List.filter_cons]
              split at hone
              · rename_i hm
                obtain ⟨j, rfl, hj⟩ := hone
                rw [if_pos hm]
                exact .cons hj hall
              · rename_i hm
                rw [hone, if_neg hm]
                exact hall
        · rcases exec_handleAll h₂ with ⟨hx, ev, hev, hc⟩ | ⟨-, rs', hrs, -⟩
          · cases hx; exact .inl ⟨rfl, ev, List.mem_append_right _ hev, hc⟩
          · cases hrs
    · rcases exec_handleRequest h₁ with ⟨hx, hc⟩ | ⟨-, r', hr, -⟩
      · cases hx; exact .inl ⟨rfl, hc⟩
      · cases hr

/-- What is sent for a message are the answers to its elements. -/
theorem exec_handleMessage {msg : Json} {t : List (Event toolSig)} {x : Except Exn (Option Json)}
    (h : (handleMessage S msg).Exec t x) : (x = .error .cancelled ∧ ∃ ev ∈ t, wasCancelled ev = true) ∨
      ((∀ ev ∈ t, wasCancelled ev = false) ∧ ∃ r, x = .ok r ∧ (frames msg r = [] → r = none) ∧
        List.Forall₂ Answers ((elements msg).filter fun m => expectsReply m && !initializedRequest m)
          (frames msg r)) := by
  have hsingle : ∀ {m : Json}, elements m = [m] → (∀ r, frames m r = r.toList) → (handleRequest S m).Exec t x →
      (x = .error .cancelled ∧ ∃ ev ∈ t, wasCancelled ev = true) ∨
        ((∀ ev ∈ t, wasCancelled ev = false) ∧ ∃ r, x = .ok r ∧ (frames m r = [] → r = none) ∧
          List.Forall₂ Answers ((elements m).filter fun m => expectsReply m && !initializedRequest m)
            (frames m r)) := by
    intro m hm hframes h
    rcases exec_handleRequest h with hc | ⟨hno, r, rfl, hone⟩
    · exact .inl hc
    · refine .inr ⟨hno, r, rfl, ?_, ?_⟩
      · rw [hframes]; exact Option.toList_eq_nil_iff.1
      · rw [hm, hframes, List.filter_cons]
        unfold OneReply at hone
        by_cases hyes : (expectsReply m && !initializedRequest m) = true
        · rw [if_pos hyes] at hone
          obtain ⟨j, rfl, hj⟩ := hone
          rw [if_pos hyes]
          exact .cons hj .nil
        · rw [if_neg hyes] at hone
          rw [hone, if_neg hyes]
          exact .nil
  cases msg with
  | arr ms =>
    cases ms with
    | nil =>
      obtain ⟨rfl, rfl⟩ := h
      exact .inr ⟨List.forall_mem_nil _, _, rfl, fun h => (by cases h), List.Forall₂.cons rfl .nil⟩
    | cons m ms =>
      rcases (Prog.exec_bind _ _ _ _).1 h with ⟨rs, t₁, t₂, h₁, h₂, rfl⟩ | ⟨e, h₁, rfl⟩
      · obtain ⟨rfl, rfl⟩ := h₂
        rw [List.append_nil]
        rcases exec_handleAll h₁ with ⟨hx, -⟩ | ⟨hno, rs', hrs, hall⟩
        · cases hx
        · cases hrs
          refine .inr ⟨hno, _, rfl, ?_⟩
          by_cases hnil : rs = []
          · rw [if_pos hnil]
            rw [hnil] at hall
            exact ⟨fun _ => rfl, hall⟩
          · rw [if_neg hnil]
            exact ⟨fun h => absurd h hnil, hall⟩
      · rcases exec_handleAll h₁ with ⟨hx, hc⟩ | ⟨-, rs', hrs, -⟩
        · cases hx; exact .inl ⟨rfl, hc⟩
        · cases hrs
  | _ => exact hsingle rfl (fun _ => rfl) h

end Request

/-- Handling keeps the reply discipline exactly when no request with an id says that the client is
initialized and no tool call is cancelled. -/
theorem handle_message_disciplined_iff (S : DIOMCPServer) (msg : Json) {t : List (Event toolSig)}
    {x : Except Exn (Option Json)} (h : (handleMessage S msg).Exec t x) :
    Disciplined msg x ↔ (∀ m ∈ elements msg, initializedRequest m = false) ∧ ∀ ev ∈ t, wasCancelled ev = false := by
  have hfilter : ∀ ms : List Json, (ms.filter fun m => expectsReply m && !initializedRequest m) =
      (ms.filter expectsReply).filter fun m => !initializedRequest m := by
    intro ms
    rw [List.filter_filter]
    exact List.filter_congr fun m _ => Bool.and_comm _ _
  -- a request that says so has an id, so it expects a reply
  have hexpects : ∀ m, initializedRequest m = true → expectsReply m = true := by
    intro m hm
    cases m with
    | obj req => exact (Bool.and_eq_true _ _ ▸ hm).1
    | _ => cases hm
  rcases exec_handleMessage h with ⟨rfl, ev, hev, hc⟩ | ⟨hno, r, rfl, hnil, hall⟩
  · refine iff_of_false ?_ fun hcond => ?_
    · rintro ⟨r, hr, -⟩; cases hr
    · rw [hcond.2 ev hev] at hc; cases hc
  · rw [hfilter] at hall
    constructor
    · rintro ⟨r', hr, hall', -⟩
      cases hr
      refine ⟨fun m hm => ?_, hno⟩
      have hlen := hall.length_eq.trans hall'.length_eq.symm
      rw [List.length_filter_eq_length_iff] at hlen
      by_contra hinit
      rw [Bool.not_eq_false] at hinit
      have hkept := hlen m (List.mem_filter.2 ⟨hm, hexpects m hinit⟩)
      rw [hinit] at hkept
      cases hkept
    · rintro ⟨hinit, -⟩
      refine ⟨r, rfl, ?_, hnil⟩
      rwa [List.filter_eq_self.2 fun m hm => by rw [hinit m (List.mem_filter.1 hm).1]; rfl] at hall

/-! ## Examples -/

def plainServer : DIOMCPServer := ⟨.ascii, repr .ascii⟩

/-- Every tool raises. -/
def toolsFail : (c : ToolCall) → Outcome Json := fun _ => .raised "connection refused"

/-- A batch of a ping, a notification and a tool call. -/
def mixedBatch : Json := .arr [.obj [("id", .int 7), ("method", .str "ping")], .obj [("method", .str "ping")],
  .obj [("id", .str "a"), ("method", .str "tools/call"), ("params", .obj [("name", .str "dio_get_models")])]]

theorem handle_message_disciplined_mixed :
    Disciplined mixedBatch (Prog.run (S := toolSig) toolsFail (handleMessage plainServer mixedBatch)).2 := by
  refine (handle_message_disciplined_iff plainServer mixedBatch (Prog.exec_run (S := toolSig) toolsFail _)).2 ⟨?_, ?_⟩
  · decide
  · intro ev hev
    rw [Prog.mem_run (S := toolSig) toolsFail hev]; rfl

/-- A request that says with an id that the client is initialized. -/
def initializedWithId : Json := .obj [("id", .int 1), ("method", .str "notifications/initialized")]

/-- It gets no reply. -/
theorem initialized_unanswered : (handleMessage plainServer initializedWithId).Exec [] (.ok none) ∧
    ¬ Disciplined initializedWithId (.ok none) := by
  refine ⟨⟨rfl, rfl⟩, ?_⟩
  rintro ⟨r, hr, hall, -⟩
  cases hr
  cases hall

end Dio.Mcp
