/-
Backends and the upstream requests built for them (`backends.py`): URLs, authentication, the TGI
translation and the two `forward_*` helpers of the pool, up to the request they send.
-/
import DioServe.Py.Value

namespace Dio.Gateway

open Data Py

/-! ## Backends -/

/-- `ApiStyle`. -/
inductive ApiStyle
  | openai | openaiChat | openaiCompletions | tgiGenerate | custom
  deriving DecidableEq, Repr

def ApiStyle.name : ApiStyle → String
  | .openai => "openai"
  | .openaiChat => "openai_chat"
  | .openaiCompletions => "openai_completions"
  | .tgiGenerate => "tgi_generate"
  | .custom => "custom"

/-- `Backend`: one inference server. -/
structure Backend where
  id : String
  baseUrl : String
  tier : String := "small"
  model : Option String := none
  totalVramMb : PyFloat := .fin 24000
  freeVramMb : PyFloat := .fin 24000
  apiStyle : ApiStyle := .openai
  apiKey : Option String := none
  chatPath : String := "/v1/chat/completions"
  completionsPath : String := "/v1/completions"
  generatePath : String := "/generate"
  healthPath : String := "/health"
  modelsPath : String := "/v1/models"
  metricsPath : String := "/metrics"
  timeoutS : Option PyFloat := none

/-- The engine routes a request can be meant for (`path`). -/
inductive Path
  | chat | completions
  deriving DecidableEq, Repr

/-- `s.rstrip("/")`. -/
def rstripSlash (s : String) : String := String.ofList (s.toList.reverse.dropWhile (· = '/')).reverse

namespace Backend

def url (b : Backend) (path : String) : String :=
  rstripSlash b.baseUrl ++ if path.toList.head? = some '/' then path else "/" ++ path

def metricsUrl (b : Backend) : String := b.url b.metricsPath

def chatUrl (b : Backend) : String :=
  match b.apiStyle with
  | .tgiGenerate => b.url b.generatePath
  | .custom => b.url b.chatPath
  | _ => b.url b.chatPath

def completionsUrl (b : Backend) : String :=
  match b.apiStyle with
  | .tgiGenerate => b.url b.generatePath
  | .custom => b.url b.completionsPath
  | _ => b.url b.completionsPath

def modelsUrl (b : Backend) : String := b.url b.modelsPath

def healthUrl (b : Backend) : String := b.url b.healthPath

def authHeaders (b : Backend) : Dict String String :=
  match b.apiKey with
  | none => []
  | some key => if key = "" then [] else [("Authorization", "Bearer " ++ key)]

/-- The model name the backend puts in place of the request's (`if b.model: ...`). -/
def ownModel (b : Backend) : Option String := b.model.filter (· ≠ "")

/-- `payload["model"] = b.model` when the backend has one. -/
def setModel (b : Backend) (payload : Obj) : Obj :=
  match b.ownModel with
  | some m => Dict.set payload "model" (.str m)
  | none => payload

end Backend

/-! ## Translation to TGI -/

/-- The turns of a conversation as TGI prompt lines. -/
def tgiTurns (U : Unicode) : List Json → Except PyErr (List String)
  | [] => .ok []
  | m :: ms => do
    let role ← m.getD "role" (.str "user")
    let content ← m.getD "content" (.str "")
    let rest ← tgiTurns U ms
    return (str U role ++ ": " ++ str U content) :: rest

/-- The text TGI is given to continue. -/
def tgiInputs (U : Unicode) (body : Obj) : Except PyErr String := do
  let messages := ((Dict.get? body "messages").getD .null).orElse (.arr [])
  if messages.truthy then
    let turns ← tgiTurns U (← messages.elems)
    return "\n".intercalate turns ++ "\nassistant:"
  else
    return str U (((Dict.get? body "prompt").getD .null).orElse (.str ""))

/-- The completion budget a TGI request carries. -/
def tgiMaxNew (U : Unicode) (body : Obj) : Except PyErr Int :=
  let maxTokens := (Dict.get? body "max_tokens").getD .null
  let maxNew := if maxTokens.isNull then (Dict.get? body "max_new_tokens").getD .null else maxTokens
  if maxNew.isNull then .ok 64 else maxNew.toInt U

/-- Copy an optional number of the request into the TGI parameters. -/
def copyFloat (U : Unicode) (body : Obj) (src dst : String) (params : Obj) : Except PyErr Obj :=
  let v := (Dict.get? body src).getD .null
  if v.isNull then .ok params else do return Dict.set params dst (.float (← v.toFloat U))

def positive : PyFloat → Bool
  | .fin q => 0 < q
  | .inf neg => !neg
  | .nan => false

/-- The sampling temperature of a TGI request. -/
def tgiTemperature (U : Unicode) (body params : Obj) : Except PyErr Obj :=
  let temperature := (Dict.get? body "temperature").getD .null
  if temperature.isNull then .ok (Dict.set params "temperature" (.float (.fin (7 / 10))))
  else do
    let t ← temperature.toFloat U
    -- temperature 0 is greedy decoding: TGI samples only when told to
    return Dict.set (Dict.set params "temperature" (.float t)) "do_sample" (.bool (positive t))

/-- The stop sequences of a TGI request. -/
def tgiStop (body params : Obj) : Except PyErr Obj :=
  match (Dict.get? body "stop").getD .null with
  | .null => .ok params
  | .str s => .ok (Dict.set params "stop_sequences" (.arr [.str s]))
  | stop => do return Dict.set params "stop_sequences" (.arr (← stop.elems))

/-- `openai_chat_to_tgi_generate`. -/
def openaiChatToTgiGenerate (U : Unicode) (body : Obj) : Except PyErr Obj := do
  let prompt ← tgiInputs U body
  let maxNew ← tgiMaxNew U body
  let params ← tgiTemperature U body [("max_new_tokens", .int maxNew), ("do_sample", .bool true)]
  let params ← copyFloat U body "top_p" "top_p" params
  -- the presence penalty is sent under the name `repetition_penalty`
  let params ← copyFloat U body "presence_penalty" "repetition_penalty" params
  let params ← copyFloat U body "frequency_penalty" "frequency_penalty" params
  let params ← tgiStop body params
  return [("inputs", .str prompt), ("parameters", .obj params)]

/-! ## Upstream requests -/

/-- A request as handed to the HTTP client. -/
structure HttpRequest where
  url : String
  headers : Dict String String
  timeout : PyFloat
  payload : Obj

/-- The body `forward_chat` and `forward_completions` send. -/
def Backend.forwardPayload (U : Unicode) (b : Backend) (body : Obj) : Except PyErr Obj :=
  if b.apiStyle = .tgiGenerate then openaiChatToTgiGenerate U body else .ok (b.setModel body)

/-- The request of `BackendPool.forward_chat`. -/
def Backend.forwardChat (U : Unicode) (b : Backend) (body : Obj) (timeout : PyFloat) : Except PyErr HttpRequest := do
  return ⟨b.chatUrl, b.authHeaders, b.timeoutS.getD timeout, ← b.forwardPayload U body⟩

/-- The request of `BackendPool.forward_completions`. -/
def Backend.forwardCompletions (U : Unicode) (b : Backend) (body : Obj) (timeout : PyFloat) :
    Except PyErr HttpRequest := do
  return ⟨b.completionsUrl, b.authHeaders, b.timeoutS.getD timeout, ← b.forwardPayload U body⟩

/-- `forward_chat` or `forward_completions`, by path. -/
def Backend.forward (U : Unicode) (b : Backend) : Path → Obj → PyFloat → Except PyErr HttpRequest
  | .chat => b.forwardChat U
  | .completions => b.forwardCompletions U

/-- The URL of an engine route. -/
def Backend.routeUrl (b : Backend) : Path → String
  | .chat => b.chatUrl
  | .completions => b.completionsUrl

/-- What is forwarded: the payload, to the engine route, under the backend's credentials and timeout. -/
theorem Backend.forward_eq_ok {U : Unicode} {b : Backend} {path : Path} {body : Obj} {timeout : PyFloat}
    {request : HttpRequest} : b.forward U path body timeout = .ok request ↔
      ∃ payload, b.forwardPayload U body = .ok payload ∧
        request = ⟨b.routeUrl path, b.authHeaders, b.timeoutS.getD timeout, payload⟩ := by
  have hbind : b.forward U path body timeout = b.forwardPayload U body >>= fun payload =>
      .ok ⟨b.routeUrl path, b.authHeaders, b.timeoutS.getD timeout, payload⟩ := by cases path <;> rfl
  rw [hbind, bind_eq_ok]
  constructor
  · rintro ⟨payload, hp, h⟩; cases h; exact ⟨payload, hp, rfl⟩
  · rintro ⟨payload, hp, rfl⟩; exact ⟨payload, hp, rfl⟩

/-! ## The pool -/

/-- `BackendPool`: the backends in registration order, under distinct ids. -/
structure BackendPool where
  backends : List Backend
  nodup : (backends.map Backend.id).Nodup

namespace BackendPool

def empty : BackendPool := ⟨[], List.nodup_nil⟩

/-- `self.backends[backend.id] = backend` on the values: in place when the id is known. -/
def put (b : Backend) : List Backend → List Backend
  | [] => [b]
  | b' :: bs => if b'.id = b.id then b :: bs else b' :: put b bs

theorem mem_put_ids {b : Backend} {i : String} :
    ∀ {bs : List Backend}, i ∈ (put b bs).map Backend.id ↔ i = b.id ∨ i ∈ bs.map Backend.id
  | [] => by simp [put]
  | b' :: bs => by
    unfold put
    split
    · rename_i h; simp [h]
    · have ih : i ∈ (put b bs).map Backend.id ↔ i = b.id ∨ i ∈ bs.map Backend.id := mem_put_ids
      simp only [List.map_cons, List.mem_cons, ih]; tauto

theorem nodup_put {b : Backend} : ∀ {bs : List Backend}, (bs.map Backend.id).Nodup → ((put b bs).map Backend.id).Nodup
  | [], _ => by simp [put]
  | b' :: bs, h => by
    rw [List.map_cons, List.nodup_cons] at h
    unfold put
    split
    · rename_i hid; rw [List.map_cons, List.nodup_cons, ← hid]; exact h
    · rename_i hid
      rw [List.map_cons, List.nodup_cons, mem_put_ids]
      exact ⟨by rintro (he | he); exacts [hid he, h.1 he], nodup_put h.2⟩

/-- `BackendPool.add`. -/
def add (p : BackendPool) (b : Backend) : BackendPool := ⟨put b p.backends, nodup_put p.nodup⟩

/-- `BackendPool(backends)`. -/
def ofList (bs : List Backend) : BackendPool := bs.foldl add empty

theorem mem_put {b b' : Backend} : ∀ {bs : List Backend}, b' ∈ put b bs → b' = b ∨ b' ∈ bs
  | [], h => .inl (List.mem_singleton.1 h)
  | b₀ :: bs, h => by
    unfold put at h
    split at h
    · rcases List.mem_cons.1 h with rfl | h
      · exact .inl rfl
      · exact .inr (List.mem_cons_of_mem _ h)
    · rcases List.mem_cons.1 h with rfl | h
      · exact .inr (List.mem_cons_self ..)
      · exact (mem_put h).imp_right (List.mem_cons_of_mem _)

/-- A pool has the backends it was given. -/
theorem mem_ofList {b : Backend} {bs : List Backend} (h : b ∈ (ofList bs).backends) : b ∈ bs := by
  have hadd : ∀ {bs : List Backend} {p : BackendPool}, b ∈ (bs.foldl add p).backends → b ∈ p.backends ∨ b ∈ bs := by
    intro bs
    induction bs with
    | nil => exact fun h => .inl h
    | cons b' bs ih =>
      intro p h
      rcases ih h with h | h
      · rcases mem_put h with rfl | h
        · exact .inr (List.mem_cons_self ..)
        · exact .inl h
      · exact .inr (List.mem_cons_of_mem _ h)
  rcases hadd h with h | h
  · cases h
  · exact h

/-- `pool.backends.get(id)`. -/
def get? (p : BackendPool) (id : String) : Option Backend := p.backends.find? (·.id = id)

def ids (p : BackendPool) : List String := p.backends.map Backend.id

theorem get?_eq_none_iff {p : BackendPool} {id : String} : p.get? id = none ↔ id ∉ p.ids := by
  simp [get?, ids, List.find?_eq_none]

theorem get?_some {p : BackendPool} {id : String} {b : Backend} (h : p.get? id = some b) :
    b ∈ p.backends ∧ b.id = id :=
  ⟨List.mem_of_find?_eq_some h, by simpa using List.find?_some h⟩

end BackendPool

end Dio.Gateway
