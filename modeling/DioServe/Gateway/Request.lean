/-
What the gateway reads from and checks of a request body before it routes it (`gateway.py`): the
prompt text, the body validation, the prompt cap, the routing feature, and the translation of
Ollama bodies to OpenAI ones.
-/
import DioServe.Gateway.Backend

namespace Dio.Gateway

open Data Py

/-! ## The prompt -/

/-- `j == s` for a text `s`. -/
def isStr (s : String) : Json → Bool
  | .str t => t = s
  | _ => false

/-- The texts `" ".join` is given for a multimodal content: the `text` of each text part. -/
def partTexts : List Json → Except PyErr (List String)
  | [] => .ok []
  | .obj part :: ps =>
    if isStr "text" ((Dict.get? part "type").getD .null) then
      match (Dict.get? part "text").getD (.str "") with
      | .str s => do return s :: (← partTexts ps)
      | _ => .error .typeError
    else partTexts ps
  | _ :: ps => partTexts ps

/-- The content of a message as the prompt shows it. -/
def contentText (U : Unicode) : Json → Except PyErr String
  | .arr ps => do return " ".intercalate (← partTexts ps)
  | c => .ok (str U c)

/-- The messages as prompt lines. -/
def promptTurns (U : Unicode) : List Json → Except PyErr (List String)
  | [] => .ok []
  | m :: ms => do
    let c ← m.getD "content" (.str "")
    let text ← contentText U c
    let role ← m.getD "role" (.str "user")
    return (str U role ++ ": " ++ text) :: (← promptTurns U ms)

/-- `_extract_prompt`. -/
def extractPrompt (U : Unicode) (body : Obj) : Except PyErr String :=
  let messages := (Dict.get? body "messages").getD .null
  if messages.truthy then do
    let turns ← promptTurns U (← messages.elems)
    return "\n".intercalate turns
  else .ok (str U (((Dict.get? body "prompt").getD .null).orElse (.str "")))

/-! ## Validation -/

/-- The names a completion budget can come under. -/
def budgetKeys : List String := ["max_tokens", "max_completion_tokens", "max_new_tokens"]

/-- The check of one completion budget. -/
def validateBudget (U : Unicode) (body : Obj) (cap : Int) (key : String) : Option String :=
  match (Dict.get? body key).getD .null with
  | .null => none
  | .int value =>
    if value ≤ 0 then some s!"'{key}' must be positive (got {value})"
    -- a cap of 0 is no cap
    else if cap ≠ 0 ∧ value > cap then some s!"'{key}'={value} exceeds the configured cap of {cap}"
    else none
  | value =>
    let shown := repr U value
    some s!"'{key}' must be an integer (got {shown})"

/-- `_validate_openai_body`: the first problem of the body, or none. -/
def validateOpenaiBody (U : Unicode) (body : Json) (path : Path) (maxTokensCap : Int) : Option String :=
  match body with
  | .obj body =>
    let shape := match path with
      | .chat =>
        match (Dict.get? body "messages").getD .null with
        | .arr (_ :: _) => none
        | _ => some "'messages' must be a non-empty array"
      | .completions =>
        match (Dict.get? body "prompt").getD .null with
        | .null => some "'prompt' is required"
        | .str s => if strip U s = "" then some "'prompt' is required" else none
        | _ => none
    match shape with
    | some problem => some problem
    | none => budgetKeys.findSome? (validateBudget U body maxTokensCap)
  | _ => some "body must be a JSON object"

/-! ### What a valid body has -/

section Valid

variable {U : Unicode} {body : Obj} {cap : Int}

theorem messages_of_valid (h : validateOpenaiBody U (.obj body) .chat cap = none) :
    ∃ m ms, Dict.get? body "messages" = some (.arr (m :: ms)) := by
  unfold validateOpenaiBody at h
  dsimp only at h
  split at h
  · cases h
  · rename_i hshape
    split at hshape
    · rename_i m ms hm
      cases hb : Dict.get? body "messages" with
      | none => rw [hb] at hm; cases hm
      | some v => rw [hb] at hm; exact ⟨m, ms, congrArg some hm⟩
    · cases hshape

theorem prompt_of_valid (h : validateOpenaiBody U (.obj body) .completions cap = none) :
    ∃ v, Dict.get? body "prompt" = some v ∧ v.isNull = false := by
  unfold validateOpenaiBody at h
  dsimp only at h
  split at h
  · cases h
  · rename_i hshape
    cases hb : Dict.get? body "prompt" with
    | none => rw [hb] at hshape; cases hshape
    | some v =>
      refine ⟨v, rfl, ?_⟩
      rw [hb] at hshape
      cases v with
      | null => cases hshape
      | _ => rfl

theorem budgets_of_valid {path : Path} (h : validateOpenaiBody U (.obj body) path cap = none) :
    ∀ key ∈ budgetKeys, validateBudget U body cap key = none := by
  unfold validateOpenaiBody at h
  dsimp only at h
  split at h
  · cases h
  · exact List.findSome?_eq_none_iff.1 h

/-- A budget that passes its check is absent or within the cap. -/
theorem budget_of_valid {key : String} (h : validateBudget U body cap key = none) (hcap : 0 < cap) {v : Json}
    (hv : Dict.get? body key = some v) : v = .null ∨ ∃ n : Int, v = .int n ∧ 1 ≤ n ∧ n ≤ cap := by
  unfold validateBudget at h
  rw [hv, Option.getD_some] at h
  cases v with
  | null => exact .inl rfl
  | int n =>
    dsimp only at h
    split at h
    · cases h
    · split at h
      · cases h
      · exact .inr ⟨n, rfl, by omega, by omega⟩
  | _ => cases h

end Valid

/-- `_prompt_within_cap`: the message of the 413 when the extracted prompt exceeds the cap. -/
def promptWithinCap (U : Unicode) (body : Obj) (cap : Int) : Except PyErr (Option String) :=
  if cap = 0 then .ok none
  else do
    let n := (← extractPrompt U body).length
    return if (n : Int) ≤ cap then none
      else some s!"prompt is {n} characters, which exceeds the configured cap of {cap}"

/-! ## The routing feature -/

/-- The completion budget the router assumes. -/
def routedBudget (U : Unicode) (body : Obj) : Except PyErr Int :=
  ((((Dict.get? body "max_tokens").getD .null).orElse
    ((Dict.get? body "max_completion_tokens").getD .null)).orElse (.int 64)).toInt U

/-- `_estimate_tokens_heuristic`. -/
def estimateTokensHeuristic (U : Unicode) (prompt : String) (body : Obj) : Except PyErr Int := do
  let out ← routedBudget U body
  return max 1 (prompt.length / 4 : Int) + max 1 out

/-- A tokenizer: the number of tokens of a text, or none when encoding raises. -/
abbrev Tokenizer := String → Option Nat

/-- `_TokenCounter.prompt_tokens`. -/
def promptTokens (tok : Option Tokenizer) (prompt : String) : Int :=
  match tok.bind (· prompt) with
  | some n => max 1 (n : Int)
  | none => max 1 (prompt.length / 4 : Int)

/-- `_TokenCounter.count`. -/
def countTokens (U : Unicode) (tok : Option Tokenizer) (prompt : String) (body : Obj) : Except PyErr Int := do
  let out ← routedBudget U body
  match tok.bind (· prompt) with
  | some n => return max 1 ((n : Int) + max 1 out)
  | none => estimateTokensHeuristic U prompt body

/-- `_feature_tokens`: the count, clamped by the configured cap. -/
def featureTokens (U : Unicode) (tok : Option Tokenizer) (cap : Int) (prompt : String) (body : Obj) :
    Except PyErr Int := do
  let tokens ← countTokens U tok prompt body
  return if cap > 0 then min tokens cap else tokens

/-! ## Ollama bodies -/

/-- `mapped[key] = float(options[key])` for an option that is given. -/
def mapFloat (U : Unicode) (options : Obj) (key : String) (mapped : Obj) : Except PyErr Obj :=
  match Dict.get? options key with
  | some v => do return Dict.set mapped key (.float (← v.toFloat U))
  | none => .ok mapped

/-- `mapped["max_tokens"] = int(options["num_predict"])`. -/
def mapNumPredict (U : Unicode) (options mapped : Obj) : Except PyErr Obj :=
  match Dict.get? options "num_predict" with
  | some v => do return Dict.set mapped "max_tokens" (.int (← v.toInt U))
  | none => .ok mapped

/-- `_ollama_options_to_openai`. -/
def ollamaOptionsToOpenai (U : Unicode) : Json → Except PyErr Obj
  | .obj options => do
    let mapped ← mapFloat U options "temperature" []
    let mapped ← mapFloat U options "top_p" mapped
    let mapped ← mapNumPredict U options mapped
    let mapped := match Dict.get? options "stop" with
      | some v => Dict.set mapped "stop" v
      | none => mapped
    let mapped ← mapFloat U options "presence_penalty" mapped
    mapFloat U options "frequency_penalty" mapped
  | _ => .ok []

/-- The `response_format` an Ollama `format` maps to. -/
def responseFormat (U : Unicode) : Json → Option Json
  | .str s => if lower U s = "json" then some (.obj [("type", .str "json_object")]) else none
  | .obj schema =>
    some (.obj [("type", .str "json_schema"),
      ("json_schema", .obj [("name", .str "ollama_format"), ("schema", .obj schema)])])
  | _ => none

/-- `_ollama_request_to_openai`. -/
def ollamaRequestToOpenai (U : Unicode) (body : Obj) : Obj :=
  let mapped : Obj := match responseFormat U ((Dict.get? body "format").getD .null) with
    | some fmt => [("response_format", fmt)]
    | none => []
  match (Dict.get? body "tools").getD .null with
  | .arr (t :: ts) =>
    let mapped := Dict.set mapped "tools" (.arr (t :: ts))
    let choice := (Dict.get? body "tool_choice").getD .null
    if choice.isNull then mapped else Dict.set mapped "tool_choice" choice
  | _ => mapped

/-- Both mappings applied to the translated core of an Ollama body. -/
def ollamaBody (U : Unicode) (core body : Obj) : Except PyErr Obj := do
  let opts ← match Dict.get? body "options" with
    | some options => ollamaOptionsToOpenai U options
    | none => .ok []
  return Dict.update (Dict.update core opts) (ollamaRequestToOpenai U body)

/-- `body.get("model") or ""`. -/
def modelHint (body : Obj) : Json := ((Dict.get? body "model").getD .null).orElse (.str "")

/-- The OpenAI body `/api/chat` forwards. -/
def ollamaChatBody (U : Unicode) (body : Obj) : Except PyErr Obj :=
  ollamaBody U [("model", modelHint body),
    ("messages", ((Dict.get? body "messages").getD .null).orElse (.arr []))] body

/-- The OpenAI body `/api/generate` forwards. -/
def ollamaGenerateBody (U : Unicode) (body : Obj) : Except PyErr Obj :=
  ollamaBody U [("model", modelHint body),
    ("prompt", ((Dict.get? body "prompt").getD .null).orElse (.str ""))] body

/-! ### What a translated body has -/

section Translated

variable {U : Unicode}

/-- A mapped option changes its own member only. -/
theorem mapFloat_frame {options mapped mapped' : Obj} {key : String} (h : mapFloat U options key mapped = .ok mapped') :
    (∀ k, k ≠ key → Dict.get? mapped' k = Dict.get? mapped k) ∧
      ((Dict.keys mapped).Nodup → (Dict.keys mapped').Nodup) := by
  unfold mapFloat at h
  split at h
  · obtain ⟨x, -, h⟩ := bind_eq_ok.1 h
    cases h
    exact ⟨fun k hk => Dict.get?_set_ne (Ne.symm hk) _ _, Dict.nodup_keys_set⟩
  · cases h; exact ⟨fun _ _ => rfl, id⟩

theorem mapNumPredict_frame {options mapped mapped' : Obj} (h : mapNumPredict U options mapped = .ok mapped') :
    (∀ k, k ≠ "max_tokens" → Dict.get? mapped' k = Dict.get? mapped k) ∧
      ((Dict.keys mapped).Nodup → (Dict.keys mapped').Nodup) := by
  unfold mapNumPredict at h
  split at h
  · obtain ⟨x, -, h⟩ := bind_eq_ok.1 h
    cases h
    exact ⟨fun k hk => Dict.get?_set_ne (Ne.symm hk) _ _, Dict.nodup_keys_set⟩
  · cases h; exact ⟨fun _ _ => rfl, id⟩

/-- The members options are mapped to. -/
def optionKeys : List String := ["temperature", "top_p", "max_tokens", "stop", "presence_penalty", "frequency_penalty"]

/-- The options of an Ollama body (`body.get("options")` when it is a dict). -/
def optionsOf (body : Obj) : Obj :=
  match Dict.get? body "options" with
  | some (.obj options) => options
  | _ => []

/-- The budget of an Ollama body is `num_predict`, read as an integer. -/
def MapsNumPredict (U : Unicode) (options mapped : Obj) : Prop :=
  match Dict.get? options "num_predict" with
  | some v => ∃ n, v.toInt U = .ok n ∧ Dict.get? mapped "max_tokens" = some (.int n)
  | none => Dict.get? mapped "max_tokens" = none

theorem mapsNumPredict {options mapped mapped' : Obj} (h : mapNumPredict U options mapped = .ok mapped')
    (hnone : Dict.get? mapped "max_tokens" = none) : MapsNumPredict U options mapped' := by
  unfold mapNumPredict at h
  unfold MapsNumPredict
  split at h
  · obtain ⟨n, hn, h⟩ := bind_eq_ok.1 h
    cases h
    exact ⟨n, hn, Dict.get?_set_self _ _ _⟩
  · cases h
    exact hnone

/-- Mapped options have members of their own only, and their budget is `num_predict`. -/
theorem mapped_options {options mapped : Obj} (h : ollamaOptionsToOpenai U (.obj options) = .ok mapped) :
    (Dict.keys mapped).Nodup ∧ (∀ k, k ∉ optionKeys → Dict.get? mapped k = none) ∧ MapsNumPredict U options mapped := by
  obtain ⟨m₁, h₁, h⟩ := bind_eq_ok.1 h
  obtain ⟨m₂, h₂, h⟩ := bind_eq_ok.1 h
  obtain ⟨m₃, h₃, h⟩ := bind_eq_ok.1 h
  obtain ⟨m₅, h₅, h₆⟩ := bind_eq_ok.1 h
  have hstop : ∀ k, k ≠ "stop" → Dict.get? (match Dict.get? options "stop" with
      | some v => Dict.set m₃ "stop" v
      | none => m₃) k = Dict.get? m₃ k := by
    intro k hk
    split
    · exact Dict.get?_set_ne (Ne.symm hk) _ _
    · rfl
  have hstop' : (Dict.keys m₃).Nodup → (Dict.keys (match Dict.get? options "stop" with
      | some v => Dict.set m₃ "stop" v
      | none => m₃)).Nodup := by
    intro hn
    split
    · exact Dict.nodup_keys_set hn
    · exact hn
  -- the steps after the budget leave it alone, those before set other members
  have htail : ∀ k, k ≠ "stop" → k ≠ "presence_penalty" → k ≠ "frequency_penalty" →
      Dict.get? mapped k = Dict.get? m₃ k := fun k hs hp hf => by
    rw [(mapFloat_frame h₆).1 k hf, (mapFloat_frame h₅).1 k hp, hstop k hs]
  have hhead : ∀ k, k ≠ "temperature" → k ≠ "top_p" → Dict.get? m₂ k = none := fun k ht hp => by
    rw [(mapFloat_frame h₂).1 k hp, (mapFloat_frame h₁).1 k ht]; rfl
  refine ⟨?_, ?_, ?_⟩
  · have hn : (Dict.keys m₂).Nodup := (mapFloat_frame h₂).2 ((mapFloat_frame h₁).2 List.nodup_nil)
    exact (mapFloat_frame h₆).2 ((mapFloat_frame h₅).2 (hstop' ((mapNumPredict_frame h₃).2 hn)))
  · intro k hk
    simp only [optionKeys, List.mem_cons, List.not_mem_nil, or_false, not_or] at hk
    obtain ⟨ht, hp, hm, hs, hpp, hfp⟩ := hk
    rw [htail k hs hpp hfp, (mapNumPredict_frame h₃).1 k hm, hhead k ht hp]
  · have hmap : MapsNumPredict U options m₃ := mapsNumPredict h₃ (hhead _ (by decide) (by decide))
    unfold MapsNumPredict at hmap ⊢
    rw [htail _ (by decide) (by decide) (by decide)]
    exact hmap

/-- The members request-level fields are mapped to. -/
def requestKeys : List String := ["response_format", "tools", "tool_choice"]

theorem mapped_request (U : Unicode) (body : Obj) : (Dict.keys (ollamaRequestToOpenai U body)).Nodup ∧
    ∀ k, k ∉ requestKeys → Dict.get? (ollamaRequestToOpenai U body) k = none := by
  have hformat : ∀ o : Option Json, (Dict.keys (match o with
      | some fmt => [("response_format", fmt)]
      | none => [] : Obj)).Nodup ∧ ∀ k, k ≠ "response_format" → Dict.get? (match o with
      | some fmt => [("response_format", fmt)]
      | none => [] : Obj) k = none := by
    rintro (_ | fmt)
    · exact ⟨List.nodup_nil, fun _ _ => rfl⟩
    · exact ⟨by simp [Dict.keys], fun k hk => by simp [Dict.get?_cons, Ne.symm hk]⟩
  unfold ollamaRequestToOpenai
  obtain ⟨hn, hk⟩ := hformat (responseFormat U ((Dict.get? body "format").getD .null))
  dsimp only
  split
  · split
    · refine ⟨Dict.nodup_keys_set hn, fun k h => ?_⟩
      simp only [requestKeys, List.mem_cons, List.not_mem_nil, or_false, not_or] at h
      rw [Dict.get?_set_ne (Ne.symm h.2.1), hk k h.1]
    · refine ⟨Dict.nodup_keys_set (Dict.nodup_keys_set hn), fun k h => ?_⟩
      simp only [requestKeys, List.mem_cons, List.not_mem_nil, or_false, not_or] at h
      rw [Dict.get?_set_ne (Ne.symm h.2.2), Dict.get?_set_ne (Ne.symm h.2.1), hk k h.1]
  · refine ⟨hn, fun k h => ?_⟩
    simp only [requestKeys, List.mem_cons, List.not_mem_nil, or_false, not_or] at h
    exact hk k h.1

/-- What a translated Ollama body has: the members of its core, and `num_predict` as its budget. -/
structure TranslatedFrom (U : Unicode) (core body body' : Obj) : Prop where
  other : ∀ k, k ∉ optionKeys → k ∉ requestKeys → Dict.get? body' k = Dict.get? core k
  budget : Dict.get? core "max_tokens" = none → MapsNumPredict U (optionsOf body) body'

theorem ollamaBody_translated {core body body' : Obj} (h : ollamaBody U core body = .ok body') :
    TranslatedFrom U core body body' := by
  obtain ⟨hn', hk'⟩ := mapped_request U body
  obtain ⟨opts, ⟨hn, hk, hmap⟩, rfl⟩ : ∃ opts, ((Dict.keys opts).Nodup ∧ (∀ k, k ∉ optionKeys → Dict.get? opts k = none) ∧
      MapsNumPredict U (optionsOf body) opts) ∧
      body' = Dict.update (Dict.update core opts) (ollamaRequestToOpenai U body) := by
    unfold ollamaBody at h
    unfold optionsOf
    dsimp only at h
    split at h
    · rename_i options hb
      obtain ⟨opts, ho, h⟩ := bind_eq_ok.1 h
      cases h
      refine ⟨opts, ?_, rfl⟩
      rw [hb]
      cases options with
      | obj options => exact mapped_options ho
      | _ => cases ho; exact ⟨List.nodup_nil, fun _ _ => rfl, rfl⟩
    · rename_i hb
      cases h
      refine ⟨[], ?_, rfl⟩
      rw [hb]
      exact ⟨List.nodup_nil, fun _ _ => rfl, rfl⟩
  have hget : ∀ k, k ∉ requestKeys → Dict.get? (Dict.update (Dict.update core opts) (ollamaRequestToOpenai U body)) k =
      (Dict.get? opts k).or (Dict.get? core k) := fun k h => by
    rw [Dict.get?_update hn', hk' k h, Dict.get?_update hn]; rfl
  refine ⟨fun k ho hr => by rw [hget k hr, hk k ho]; rfl, fun hcore => ?_⟩
  unfold MapsNumPredict at hmap ⊢
  rw [hget _ (by decide), hcore, Option.or_none]
  exact hmap

end Translated

end Dio.Gateway
