/-
What an endpoint makes of a body: it answers an error without any call, or it hands a body that
passed its checks to one of the proxies.
-/
import DioServe.Gateway.StreamSlot

namespace Dio.Gateway

open Data Py Effect Scheduler

variable {K : Type}

/-! ## Endpoints -/

namespace Endpoint

/-- The engine route of an endpoint. -/
def path : Endpoint → Path
  | .chatCompletions | .ollamaChat => .chat
  | .completions | .ollamaGenerate => .completions

/-- The body an endpoint hands on. -/
def openaiBody (U : Unicode) : Endpoint → Obj → Except PyErr Obj
  | .chatCompletions, body | .completions, body => .ok body
  | .ollamaChat, body => ollamaChatBody U body
  | .ollamaGenerate, body => ollamaGenerateBody U body

/-- The streaming proxy of an endpoint and the body it is given. -/
def streaming : Endpoint → Obj → StreamHandler × Obj
  | .chatCompletions, body | .completions, body => (.relay "text/event-stream", body)
  | .ollamaChat, body => (.ollama true, Dict.set body "stream" (.bool true))
  | .ollamaGenerate, body => (.ollama false, Dict.set body "stream" (.bool true))

end Endpoint

/-- The body passed the endpoint's checks: `body'` is handed on, to the backends `allowed`. -/
structure Routed (G : DioGateway K) (e : Endpoint) (body body' : Obj) (allowed : Option (List String)) : Prop where
  valid : validateOpenaiBody G.U (.obj body) e.path G.maxTokensCap = none
  withinCap : promptWithinCap G.U body G.promptCharsCap = .ok none
  resolved : resolveModelBackends G.U G.pool G.modelMap (modelHint body) = .ok allowed
  served : allowed ≠ some []
  translated : e.openaiBody G.U body = .ok body'

/-! ## Programs without calls -/

/-- A program that makes no call. -/
def Silent {α : Type} (p : Co K α) : Prop := Prog.Only (fun _ => False) p

theorem Silent.eq_nil {α : Type} {p : Co K α} (hp : Silent p) {t : List (Event (sig K))} {x : Except Exn α}
    (h : p.Exec t x) : t = [] := List.eq_nil_iff_forall_not_mem.2 fun ev hev => hp t x h ev hev

theorem silent_py {α : Type} {y : Except PyErr α} : Silent (py y : Co K α) := Prog.Only.ofExcept _

theorem silent_jsonResponse {r : JsonResponse K} : Silent (jsonResponse r) := by
  unfold jsonResponse
  split
  · exact Prog.Only.ret _
  · exact silent_py

theorem silent_serve_json {p : Co K (JsonResponse K)} (h : Silent p) :
    Silent (serve (do return .json (← p))) := by
  rw [serve_bind]
  exact Prog.Only.bind h fun _ => Prog.Only.ret _

/-- An exception is raised by a program without calls. -/
theorem exists_silent_raise (e : Exn) :
    ∃ p : Co K (JsonResponse K), Silent p ∧ (Prog.raise e : Co K (Reply K)) = do return .json (← p) :=
  ⟨Prog.raise e, Prog.Only.raise e, rfl⟩

/-- What follows a program without calls adds no event. -/
theorem exec_bind_silent {α β : Type} {p : Co K α} {f : α → Co K β} (hf : ∀ a, Silent (f a)) {t : List (Event (sig K))}
    {x : Except Exn β} (h : (p >>= f).Exec t x) : ∃ x', p.Exec t x' := by
  rcases (Prog.exec_bind _ _ _ _).1 h with ⟨a, t₁, t₂, h1, h2, rfl⟩ | ⟨e, h1, -⟩
  · rw [(hf a).eq_nil h2, List.append_nil]; exact ⟨_, h1⟩
  · exact ⟨_, h1⟩

/-! ## Checks -/

/-- A reply without any call: an error, or an exception. -/
def Refusal (r : Co K (Reply K)) : Prop := ∃ p : Co K (JsonResponse K), Silent p ∧ r = do return .json (← p)

/-- The checks of an endpoint before what it does `after` them. -/
def checked (G : DioGateway K) (path : Path) (body : Obj) (invalid tooLarge : String → Co K (Reply K))
    (unknown : Co K (Reply K)) (after : Option (List String) → Co K (Reply K)) : Co K (Reply K) :=
  match validateOpenaiBody G.U (.obj body) path G.maxTokensCap with
  | some problem => invalid problem
  | none => py (promptWithinCap G.U body G.promptCharsCap) >>= fun message =>
    match message with
    | some message => tooLarge message
    | none => py (resolveModelBackends G.U G.pool G.modelMap (modelHint body)) >>= fun allowed =>
      if allowed = some [] then unknown else after allowed

/-- An endpoint refuses, or goes on with a body that passed its checks. -/
theorem checks_cases {G : DioGateway K} {path : Path} {body : Obj} {invalid tooLarge : String → Co K (Reply K)}
    {unknown : Co K (Reply K)} {after : Option (List String) → Co K (Reply K)} (hinvalid : ∀ m, Refusal (invalid m))
    (hlarge : ∀ m, Refusal (tooLarge m)) (hunknown : Refusal unknown) {whole : Co K (Reply K)}
    (hwhole : whole = checked G path body invalid tooLarge unknown after) :
    Refusal whole ∨ ∃ allowed, validateOpenaiBody G.U (.obj body) path G.maxTokensCap = none ∧
      promptWithinCap G.U body G.promptCharsCap = .ok none ∧
      resolveModelBackends G.U G.pool G.modelMap (modelHint body) = .ok allowed ∧ allowed ≠ some [] ∧
      whole = after allowed := by
  subst hwhole
  unfold checked
  cases hvalid : validateOpenaiBody G.U (.obj body) path G.maxTokensCap with
  | some problem => exact .inl (hinvalid problem)
  | none =>
    cases hcap : promptWithinCap G.U body G.promptCharsCap with
    | error e => exact .inl (exists_silent_raise _)
    | ok message =>
      cases message with
      | some message => exact .inl (hlarge message)
      | none =>
        cases hallowed : resolveModelBackends G.U G.pool G.modelMap (modelHint body) with
        | error e => exact .inl (exists_silent_raise _)
        | ok allowed =>
          by_cases hserved : allowed = some []
          · refine .inl ?_
            simp only [py_ok_bind, if_pos hserved]
            exact hunknown
          · refine .inr ⟨allowed, rfl, rfl, rfl, hserved, ?_⟩
            simp only [py_ok_bind, if_neg hserved]

variable [Field K] [LinearOrder K] [FloorRing K]

/-! ## Dispatch -/

/-- An OpenAI endpoint answers an error without any call, or is one of its two paths on a body that
passed its checks. -/
theorem openaiEndpoint_cases (G : DioGateway K) (path : Path) (body : Obj) :
    (∃ p : Co K (JsonResponse K), Silent p ∧ openaiEndpoint G path body = do return .json (← p)) ∨
      ∃ allowed, validateOpenaiBody G.U (.obj body) path G.maxTokensCap = none ∧
        promptWithinCap G.U body G.promptCharsCap = .ok none ∧
        resolveModelBackends G.U G.pool G.modelMap (modelHint body) = .ok allowed ∧ allowed ≠ some [] ∧
        openaiEndpoint G path body =
          if ((Dict.get? body "stream").getD .null).truthy then proxyStream G body path "small" allowed
          else do return .json (← proxyJson G body path "small" allowed) := by
  rcases checks_cases (fun _ => ⟨_, silent_jsonResponse, rfl⟩) (fun _ => ⟨_, silent_jsonResponse, rfl⟩)
    ⟨_, silent_jsonResponse, rfl⟩ (show openaiEndpoint G path body = checked G path body _ _ _ _ from rfl) with
    hrefused | ⟨allowed, hvalid, hcap, hallowed, hserved, heq⟩
  · exact .inl hrefused
  · exact .inr ⟨allowed, hvalid, hcap, hallowed, hserved, heq⟩

theorem exec_openaiEndpoint {G : DioGateway K} {path : Path} {body : Obj} {t : List (Event (sig K))}
    {x : Except Exn Unit} (h : (serve (openaiEndpoint G path body)).Exec t x) :
    t = [] ∨ ∃ allowed, validateOpenaiBody G.U (.obj body) path G.maxTokensCap = none ∧
      promptWithinCap G.U body G.promptCharsCap = .ok none ∧
      resolveModelBackends G.U G.pool G.modelMap (modelHint body) = .ok allowed ∧ allowed ≠ some [] ∧
      ((∃ x', (proxyJson G body path "small" allowed).Exec t x') ∨
        (serve ((StreamHandler.relay "text/event-stream").proxy G body path "small" allowed)).Exec t x) := by
  rcases openaiEndpoint_cases G path body with ⟨p, hp, heq⟩ | ⟨allowed, hvalid, hcap, hallowed, hserved, heq⟩
  · rw [heq] at h
    exact .inl ((silent_serve_json hp).eq_nil h)
  · rw [heq] at h
    refine .inr ⟨allowed, hvalid, hcap, hallowed, hserved, ?_⟩
    split at h
    · exact .inr h
    · rw [serve_bind] at h
      exact .inl (exec_bind_silent (fun _ => Prog.Only.ret _) h)

/-- An Ollama endpoint answers an error without any call, or is one of its two paths on a body that
passed its checks. -/
theorem ollamaEndpoint_cases (G : DioGateway K) (path : Path) (isChat : Bool) (toOpenai : Obj → Except PyErr Obj)
    (generated : Json → Except PyErr (String × Json)) (body : Obj) :
    (∃ p : Co K (JsonResponse K), Silent p ∧
        ollamaEndpoint G path isChat toOpenai generated body = do return .json (← p)) ∨
      ∃ body' allowed, validateOpenaiBody G.U (.obj body) path G.maxTokensCap = none ∧
        promptWithinCap G.U body G.promptCharsCap = .ok none ∧
        resolveModelBackends G.U G.pool G.modelMap (modelHint body) = .ok allowed ∧ allowed ≠ some [] ∧
        toOpenai body = .ok body' ∧
        ollamaEndpoint G path isChat toOpenai generated body =
          if ((Dict.get? body "stream").getD (.bool true)).truthy then
            proxyOllamaStream G (Dict.set body' "stream" (.bool true)) path "small" isChat allowed
          else ollamaJson G generated body' path (modelHint body) allowed := by
  rcases checks_cases (fun _ => ⟨_, silent_jsonResponse, rfl⟩) (fun _ => ⟨_, silent_jsonResponse, rfl⟩)
    ⟨_, silent_jsonResponse, rfl⟩
    (show ollamaEndpoint G path isChat toOpenai generated body = checked G path body _ _ _ _ from rfl) with
    hrefused | ⟨allowed, hvalid, hcap, hallowed, hserved, heq⟩
  · exact .inl hrefused
  · cases hbody : toOpenai body with
    | error e =>
      rw [heq, hbody]
      exact .inl (exists_silent_raise _)
    | ok body' =>
      rw [hbody] at heq
      exact .inr ⟨body', allowed, hvalid, hcap, hallowed, hserved, rfl, heq⟩

theorem exec_ollamaEndpoint {G : DioGateway K} {path : Path} {isChat : Bool} {toOpenai : Obj → Except PyErr Obj}
    {generated : Json → Except PyErr (String × Json)} {body : Obj} {t : List (Event (sig K))} {x : Except Exn Unit}
    (h : (serve (ollamaEndpoint G path isChat toOpenai generated body)).Exec t x) :
    t = [] ∨ ∃ body' allowed, validateOpenaiBody G.U (.obj body) path G.maxTokensCap = none ∧
      promptWithinCap G.U body G.promptCharsCap = .ok none ∧
      resolveModelBackends G.U G.pool G.modelMap (modelHint body) = .ok allowed ∧ allowed ≠ some [] ∧
      toOpenai body = .ok body' ∧
      ((∃ x', (proxyJson G body' path "small" allowed).Exec t x') ∨
        (serve ((StreamHandler.ollama isChat).proxy G (Dict.set body' "stream" (.bool true)) path "small" allowed)).Exec
          t x) := by
  rcases ollamaEndpoint_cases G path isChat toOpenai generated body with
    ⟨p, hp, heq⟩ | ⟨body', allowed, hvalid, hcap, hallowed, hserved, hbody, heq⟩
  · rw [heq] at h
    exact .inl ((silent_serve_json hp).eq_nil h)
  · rw [heq] at h
    refine .inr ⟨body', allowed, hvalid, hcap, hallowed, hserved, hbody, ?_⟩
    split at h
    · exact .inr h
    · unfold ollamaJson at h
      rw [serve_bind] at h
      refine .inl (exec_bind_silent (fun resp => ?_) h)
      split
      · exact Prog.Only.ret _
      · rw [serve_bind]
        exact Prog.Only.bind silent_py fun _ => silent_serve_json silent_jsonResponse

/-- A request is answered without any call, or its body passes the endpoint's checks and is handed to
the JSON proxy or to the endpoint's streaming proxy. -/
theorem exec_endpoint {G : DioGateway K} {e : Endpoint} {body : Obj} {t : List (Event (sig K))} {x : Except Exn Unit}
    (h : (serve (e.handle G body)).Exec t x) :
    t = [] ∨ ∃ body' allowed, Routed G e body body' allowed ∧
      ((∃ x', (proxyJson G body' e.path "small" allowed).Exec t x') ∨
        (serve ((e.streaming body').1.proxy G (e.streaming body').2 e.path "small" allowed)).Exec t x) := by
  cases e with
  | chatCompletions =>
    apply (exec_openaiEndpoint h).imp_right
    rintro ⟨allowed, hv, hc, hr, hs, h⟩
    exact ⟨body, allowed, ⟨hv, hc, hr, hs, rfl⟩, h⟩
  | completions =>
    apply (exec_openaiEndpoint h).imp_right
    rintro ⟨allowed, hv, hc, hr, hs, h⟩
    exact ⟨body, allowed, ⟨hv, hc, hr, hs, rfl⟩, h⟩
  | ollamaChat =>
    apply (exec_ollamaEndpoint h).imp_right
    rintro ⟨body', allowed, hv, hc, hr, hs, ht, h⟩
    exact ⟨body', allowed, ⟨hv, hc, hr, hs, ht⟩, h⟩
  | ollamaGenerate =>
    apply (exec_ollamaEndpoint h).imp_right
    rintro ⟨body', allowed, hv, hc, hr, hs, ht, h⟩
    exact ⟨body', allowed, ⟨hv, hc, hr, hs, ht⟩, h⟩

end Dio.Gateway
