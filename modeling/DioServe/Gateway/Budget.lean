/-
The generation cap: which completion budgets reach an engine. A budget under an OpenAI name is
checked before it is forwarded; Ollama's `num_predict`, the default of 64 and the TGI parameters a
client adds to a relayed stream are not.
-/
import DioServe.Gateway.Parity

namespace Dio.Gateway

open Data Py Effect Scheduler

variable {K : Type}

/-! ## Budgets -/

/-- The budget under a name is absent or an integer from 1 to the cap; a null is no budget. -/
def BudgetOk (c : Int) (payload : Obj) (key : String) : Prop :=
  ∀ v, Dict.get? payload key = some v → v = .null ∨ ∃ n : Int, v = .int n ∧ 1 ≤ n ∧ n ≤ c

/-- Every budget of a payload is within the cap. -/
def Capped (c : Int) (payload : Obj) : Prop := ∀ key ∈ budgetKeys, BudgetOk c payload key

/-- Every budget a payload asks a backend for is within the cap, the TGI parameters' included. -/
def WithinCap (c : Int) (b : Backend) (payload : Obj) : Prop :=
  Capped c payload ∧ (b.apiStyle = .tgiGenerate → ∀ params, Dict.get? payload "parameters" = some (.obj params) →
    Capped c params)

theorem BudgetOk.congr {c : Int} {p p' : Obj} {key : String} (h : Dict.get? p key = Dict.get? p' key) :
    BudgetOk c p key ↔ BudgetOk c p' key := by
  unfold BudgetOk; rw [h]

theorem BudgetOk.of_none {c : Int} {p : Obj} {key : String} (h : Dict.get? p key = none) : BudgetOk c p key := by
  intro v hv; rw [h] at hv; cases hv

theorem budgetOk_int {c n : Int} {p : Obj} {key : String} (h : Dict.get? p key = some (.int n)) :
    BudgetOk c p key ↔ 1 ≤ n ∧ n ≤ c := by
  constructor
  · intro hok
    rcases hok _ h with hn | ⟨m, hm, h1, h2⟩
    · cases hn
    · cases hm; exact ⟨h1, h2⟩
  · rintro ⟨h1, h2⟩ v hv
    rw [h] at hv; cases hv
    exact .inr ⟨n, rfl, h1, h2⟩

theorem Capped.congr {c : Int} {p p' : Obj} (h : ∀ key ∈ budgetKeys, Dict.get? p key = Dict.get? p' key) :
    Capped c p ↔ Capped c p' :=
  forall₂_congr fun key hkey => BudgetOk.congr (h key hkey)

/-- A budget is given: present and not null. -/
def Given : Option Json → Prop
  | none | some .null => False
  | some _ => True

/-! ## TGI parameters -/

/-- The parameters of a TGI payload keep the members set before. -/
theorem copyFloat_frame {U : Unicode} {body : Obj} {src dst : String} {params params' : Obj}
    (h : copyFloat U body src dst params = .ok params') {k : String} (hk : k ≠ dst) :
    Dict.get? params' k = Dict.get? params k := by
  unfold copyFloat at h
  dsimp only at h
  split at h
  · cases h; rfl
  · obtain ⟨x, -, h⟩ := bind_eq_ok.1 h
    cases h; exact Dict.get?_set_ne (Ne.symm hk) _ _

theorem tgiTemperature_frame {U : Unicode} {body params params' : Obj} (h : tgiTemperature U body params = .ok params')
    {k : String} (ht : k ≠ "temperature") (hs : k ≠ "do_sample") : Dict.get? params' k = Dict.get? params k := by
  unfold tgiTemperature at h
  dsimp only at h
  split at h
  · cases h; exact Dict.get?_set_ne (Ne.symm ht) _ _
  · obtain ⟨x, -, h⟩ := bind_eq_ok.1 h
    cases h
    rw [Dict.get?_set_ne (Ne.symm hs), Dict.get?_set_ne (Ne.symm ht)]

theorem tgiStop_frame {body params params' : Obj} (h : tgiStop body params = .ok params') {k : String}
    (hk : k ≠ "stop_sequences") : Dict.get? params' k = Dict.get? params k := by
  unfold tgiStop at h
  split at h
  · cases h; rfl
  · cases h; exact Dict.get?_set_ne (Ne.symm hk) _ _
  · obtain ⟨x, -, h⟩ := bind_eq_ok.1 h
    cases h; exact Dict.get?_set_ne (Ne.symm hk) _ _

/-- The one budget of a TGI payload. -/
theorem tgiGenerate_budget {U : Unicode} {body payload : Obj} (h : openaiChatToTgiGenerate U body = .ok payload) :
    ∃ inputs params n, payload = [("inputs", .str inputs), ("parameters", .obj params)] ∧ tgiMaxNew U body = .ok n ∧
      ∀ key ∈ budgetKeys, Dict.get? params key = Dict.get? [("max_new_tokens", Json.int n)] key := by
  unfold openaiChatToTgiGenerate at h
  obtain ⟨inputs, -, h⟩ := bind_eq_ok.1 h
  obtain ⟨n, hn, h⟩ := bind_eq_ok.1 h
  obtain ⟨p₁, h₁, h⟩ := bind_eq_ok.1 h
  obtain ⟨p₂, h₂, h⟩ := bind_eq_ok.1 h
  obtain ⟨p₃, h₃, h⟩ := bind_eq_ok.1 h
  obtain ⟨p₄, h₄, h⟩ := bind_eq_ok.1 h
  obtain ⟨params, h₅, h⟩ := bind_eq_ok.1 h
  cases h
  refine ⟨inputs, params, n, rfl, hn, fun key hkey => ?_⟩
  have hne : key ≠ "stop_sequences" ∧ key ≠ "frequency_penalty" ∧ key ≠ "repetition_penalty" ∧ key ≠ "top_p" ∧
      key ≠ "temperature" ∧ key ≠ "do_sample" := by
    simp only [budgetKeys, List.mem_cons, List.not_mem_nil, or_false] at hkey
    rcases hkey with rfl | rfl | rfl <;> decide
  obtain ⟨hs, hf, hr, ht, htemp, hdo⟩ := hne
  rw [tgiStop_frame h₅ hs, copyFloat_frame h₄ hf, copyFloat_frame h₃ hr, copyFloat_frame h₂ ht,
    tgiTemperature_frame h₁ htemp hdo]
  simp [Dict.get?_cons, Ne.symm hdo]

theorem withinCap_tgi {U : Unicode} {c : Int} {b : Backend} (hb : b.apiStyle = .tgiGenerate) {body payload : Obj}
    (h : openaiChatToTgiGenerate U body = .ok payload) :
    ∃ n, tgiMaxNew U body = .ok n ∧ (WithinCap c b payload ↔ 1 ≤ n ∧ n ≤ c) := by
  obtain ⟨inputs, params, n, rfl, hn, hkeys⟩ := tgiGenerate_budget h
  refine ⟨n, hn, ?_⟩
  have hparams : Capped c params ↔ 1 ≤ n ∧ n ≤ c := by
    rw [Capped.congr hkeys]
    constructor
    · intro hc
      exact (budgetOk_int rfl).1 (hc "max_new_tokens" (by decide))
    · intro hn key hkey
      simp only [budgetKeys, List.mem_cons, List.not_mem_nil, or_false] at hkey
      rcases hkey with rfl | rfl | rfl
      · exact BudgetOk.of_none rfl
      · exact BudgetOk.of_none rfl
      · exact (budgetOk_int rfl).2 hn
  rw [← hparams]
  constructor
  · intro hw; exact hw.2 hb params rfl
  · intro hp
    refine ⟨fun key hkey => BudgetOk.of_none ?_, fun _ params' hparams' => ?_⟩
    · simp only [budgetKeys, List.mem_cons, List.not_mem_nil, or_false] at hkey
      rcases hkey with rfl | rfl | rfl <;> rfl
    · cases hparams'; exact hp

/-! ## Payloads -/

/-- Of a body handed on only `max_tokens` may exceed the cap; it is an integer, where it is given. -/
structure Budgeted (c : Int) (body : Obj) : Prop where
  maxTokens : ∀ v, Dict.get? body "max_tokens" = some v → v = .null ∨ ∃ n : Int, v = .int n
  maxCompletion : BudgetOk c body "max_completion_tokens"
  maxNew : BudgetOk c body "max_new_tokens"

theorem Budgeted.capped_iff {c : Int} {body : Obj} (h : Budgeted c body) :
    Capped c body ↔ BudgetOk c body "max_tokens" := by
  constructor
  · intro hc; exact hc "max_tokens" (by decide)
  · intro hm key hkey
    simp only [budgetKeys, List.mem_cons, List.not_mem_nil, or_false] at hkey
    rcases hkey with rfl | rfl | rfl
    · exact hm
    · exact h.maxCompletion
    · exact h.maxNew

/-- The default of 64 is put in for a body that gives no budget of either name. -/
theorem Budgeted.tgiMaxNew_iff {U : Unicode} {c n : Int} {body : Obj} (h : Budgeted c body)
    (hn : tgiMaxNew U body = .ok n) : 1 ≤ n ∧ n ≤ c ↔ BudgetOk c body "max_tokens" ∧
      (¬ Given (Dict.get? body "max_tokens") → ¬ Given (Dict.get? body "max_new_tokens") → 64 ≤ c) := by
  -- without `max_tokens` the other name is read, and then the default
  have hnew : (Dict.get? body "max_tokens" = none ∨ Dict.get? body "max_tokens" = some .null) →
      (1 ≤ n ∧ n ≤ c ↔ (¬ Given (Dict.get? body "max_new_tokens") → 64 ≤ c)) := by
    intro habsent
    have hread : (if ((Dict.get? body "max_new_tokens").getD .null).isNull then .ok 64
        else ((Dict.get? body "max_new_tokens").getD .null).toInt U) = Except.ok n := by
      unfold tgiMaxNew at hn
      rcases habsent with h0 | h0 <;> rw [h0] at hn <;> exact hn
    cases hmn : Dict.get? body "max_new_tokens" with
    | none =>
      rw [hmn] at hread
      cases hread
      simp [Given]
    | some v =>
      rw [hmn] at hread
      rcases h.maxNew v hmn with rfl | ⟨m, rfl, h1, h2⟩
      · cases hread
        simp [Given]
      · cases hread
        simp [Given, h1, h2]
  cases hm : Dict.get? body "max_tokens" with
  | none =>
    rw [hnew (.inl hm)]
    simp [Given, BudgetOk.of_none hm]
  | some v =>
    rcases h.maxTokens v hm with rfl | ⟨m, rfl⟩
    · have hok : BudgetOk c body "max_tokens" := fun v hv => by rw [hm] at hv; cases hv; exact .inl rfl
      rw [hnew (.inr hm)]
      simp [Given, hok]
    · have hread : n = m := by
        simp only [tgiMaxNew, hm, Option.getD_some, Json.isNull, Bool.false_eq_true, if_false, Json.toInt,
          Except.ok.injEq] at hn
        exact hn.symm
      rw [hread, budgetOk_int hm]
      simp [Given]

/-- What is forwarded of a body. -/
theorem withinCap_forward {U : Unicode} {c : Int} {b : Backend} {body payload : Obj} (h : Budgeted c body)
    (hp : b.forwardPayload U body = .ok payload) : WithinCap c b payload ↔ BudgetOk c body "max_tokens" ∧
      (b.apiStyle = .tgiGenerate → ¬ Given (Dict.get? body "max_tokens") →
        ¬ Given (Dict.get? body "max_new_tokens") → 64 ≤ c) := by
  unfold Backend.forwardPayload at hp
  by_cases htgi : b.apiStyle = .tgiGenerate
  · rw [if_pos htgi] at hp
    obtain ⟨n, hn, hw⟩ := withinCap_tgi htgi hp
    rw [hw, h.tgiMaxNew_iff hn]
    simp [htgi]
  · rw [if_neg htgi] at hp
    cases hp
    have hcapped : Capped c (b.setModel body) ↔ Capped c body := Capped.congr fun key hkey =>
      get?_setModel b body (by rintro rfl; exact absurd hkey (by decide))
    simp only [WithinCap, htgi, false_implies, and_true, hcapped, h.capped_iff]

/-- The body a chat falls back to. -/
theorem budgeted_fallback {c : Int} {body : Obj} (h : Budgeted c body) (prompt : String) :
    Budgeted c (fallbackBody body prompt) := by
  refine ⟨fun v hv => ?_, BudgetOk.of_none rfl, BudgetOk.of_none rfl⟩
  have hget : (Dict.get? body "max_tokens").getD (.int 64) = v := Option.some.inj hv
  cases hm : Dict.get? body "max_tokens" with
  | none => rw [hm] at hget; exact .inr ⟨64, hget.symm⟩
  | some v' => rw [hm] at hget; cases hget; exact h.maxTokens _ hm

/-- What is forwarded of a chat that fell back: the default is also put in for a missing budget. -/
theorem withinCap_fallback {U : Unicode} {c : Int} {b : Backend} {body payload : Obj} {prompt : String}
    (h : Budgeted c body) (hp : b.forwardPayload U (fallbackBody body prompt) = .ok payload) :
    WithinCap c b payload ↔ BudgetOk c body "max_tokens" ∧ (Dict.get? body "max_tokens" = none → 64 ≤ c) ∧
      (b.apiStyle = .tgiGenerate → ¬ Given (Dict.get? body "max_tokens") → 64 ≤ c) := by
  have hget : Dict.get? (fallbackBody body prompt) "max_tokens" = some ((Dict.get? body "max_tokens").getD (.int 64)) := rfl
  have hnew : Dict.get? (fallbackBody body prompt) "max_new_tokens" = none := rfl
  rw [withinCap_forward (budgeted_fallback h prompt) hp, hget, hnew]
  cases hm : Dict.get? body "max_tokens" with
  | none =>
    rw [hm] at hget
    rw [budgetOk_int hget]
    simp +contextual [Given, BudgetOk.of_none hm]
  | some v =>
    rw [hm] at hget
    rw [BudgetOk.congr (hget.trans (congrArg some (Option.getD_some ..)) |>.trans hm.symm)]
    simp [Given]

/-- A streamed payload keeps the members of the body it is made from. -/
theorem withinCap_streamed {c : Int} {b : Backend} {body payload : Obj} (h : Budgeted c body)
    (hkeys : ∀ key ∈ "parameters" :: budgetKeys, Dict.get? payload key = Dict.get? body key) :
    WithinCap c b payload ↔ BudgetOk c body "max_tokens" ∧
      (b.apiStyle = .tgiGenerate → ∀ params, Dict.get? body "parameters" = some (.obj params) → Capped c params) := by
  rw [WithinCap, hkeys _ (List.mem_cons_self ..), Capped.congr fun key hkey => hkeys key (List.mem_cons_of_mem _ hkey),
    h.capped_iff]

/-! ## Requests -/

section Request

variable (U : Unicode) (c : Int) (e : Endpoint) (b : Backend) (body : Obj)

/-- The budget a client gives as `max_tokens`, or as Ollama's `num_predict`. -/
def Endpoint.maxTokens : Option Json :=
  if e.isOllama then Dict.get? (optionsOf body) "num_predict" else Dict.get? body "max_tokens"

/-- The budget a client gives as `max_new_tokens`. -/
def Endpoint.maxNewTokens : Option Json := if e.isOllama then none else Dict.get? body "max_new_tokens"

/-- The default of 64 is put in for a budget the client did not give: in TGI's parameters, and in the
completion a chat falls back to. -/
def Defaulted : Call K → Prop
  | .post .first _ => b.apiStyle = .tgiGenerate ∧ ¬ Given (e.maxTokens body) ∧ ¬ Given (e.maxNewTokens body)
  | .post .again _ => e.maxTokens body = none ∨ b.apiStyle = .tgiGenerate ∧ ¬ Given (e.maxTokens body)
  | _ => False

/-- When what a call forwards is within the cap: Ollama's `num_predict` is, the default is where it is
put in, and the TGI parameters a client adds to a relayed stream are. -/
structure BudgetSafe (call : Call K) : Prop where
  numPredict : e.isOllama = true → ∀ v, Dict.get? (optionsOf body) "num_predict" = some v →
    ∃ n, v.toInt U = .ok n ∧ 1 ≤ n ∧ n ≤ c
  default : Defaulted e b body call → 64 ≤ c
  parameters : e.isOllama = false → b.apiStyle = .tgiGenerate → (∃ n request, call = .buildRequest n request) →
    ∀ params, Dict.get? body "parameters" = some (.obj params) → Capped c params

/-- The budgets of the body an endpoint hands on, in terms of the client's. -/
structure HandedOn (body' : Obj) : Prop where
  budgeted : Budgeted c body'
  budget : BudgetOk c body' "max_tokens" ↔ (e.isOllama = true → ∀ v, Dict.get? (optionsOf body) "num_predict" = some v →
    ∃ n, v.toInt U = .ok n ∧ 1 ≤ n ∧ n ≤ c)
  maxTokens : Dict.get? body' "max_tokens" = none ↔ e.maxTokens body = none
  given : Given (Dict.get? body' "max_tokens") ↔ Given (e.maxTokens body)
  givenNew : Given (Dict.get? body' "max_new_tokens") ↔ Given (e.maxNewTokens body)
  parameters : Dict.get? body' "parameters" = if e.isOllama then none else Dict.get? body "parameters"

end Request

/-- A valid body is handed on as it is. -/
theorem handedOn_openai {U : Unicode} {c : Int} (hc : 0 < c) {e : Endpoint} (he : e.isOllama = false) {body : Obj}
    (hvalid : validateOpenaiBody U (.obj body) e.path c = none) : HandedOn U c e body body := by
  have hok : ∀ key ∈ budgetKeys, BudgetOk c body key := fun key hkey v hv =>
    budget_of_valid (budgets_of_valid hvalid key hkey) hc hv
  refine ⟨⟨fun v hv => ?_, hok _ (by decide), hok _ (by decide)⟩, ?_, ?_, ?_, ?_, ?_⟩
  · rcases hok "max_tokens" (by decide) v hv with h | ⟨n, h, -⟩
    · exact .inl h
    · exact .inr ⟨n, h⟩
  · simp [he, hok "max_tokens" (by decide)]
  · simp [Endpoint.maxTokens, he]
  · simp [Endpoint.maxTokens, he]
  · simp [Endpoint.maxNewTokens, he]
  · simp [he]

/-- A translated body has the budget `num_predict` and no other. -/
theorem handedOn_ollama {U : Unicode} {c : Int} {e : Endpoint} (he : e.isOllama = true) {core body body' : Obj}
    (hcore : ∀ key ∈ "parameters" :: budgetKeys, Dict.get? core key = none) (h : TranslatedFrom U core body body') :
    HandedOn U c e body body' := by
  have hnone : ∀ key ∈ ["parameters", "max_completion_tokens", "max_new_tokens"], Dict.get? body' key = none := by
    intro key hkey
    have hmem : key ∈ "parameters" :: budgetKeys ∧ key ∉ optionKeys ∧ key ∉ requestKeys := by
      simp only [List.mem_cons, List.not_mem_nil, or_false] at hkey
      rcases hkey with rfl | rfl | rfl <;> decide
    rw [h.other key hmem.2.1 hmem.2.2, hcore key hmem.1]
  have hmap := h.budget (hcore _ (by decide))
  unfold MapsNumPredict at hmap
  cases hp : Dict.get? (optionsOf body) "num_predict" with
  | none =>
    rw [hp] at hmap
    refine ⟨⟨fun v hv => ?_, BudgetOk.of_none (hnone _ (by decide)), BudgetOk.of_none (hnone _ (by decide))⟩, ?_, ?_, ?_,
      ?_, ?_⟩
    · rw [hmap] at hv; cases hv
    · simp [BudgetOk.of_none hmap, hp]
    · simp [Endpoint.maxTokens, he, hp, hmap]
    · simp [Endpoint.maxTokens, he, hp, hmap]
    · simp [Endpoint.maxNewTokens, he, hnone]
    · simp [he, hnone]
  | some v =>
    rw [hp] at hmap
    obtain ⟨n, hn, hmap⟩ := hmap
    -- `int(None)` raises, so a value that was read is no null
    have hnull : Given (some v) := by
      cases v with
      | null => cases hn
      | _ => trivial
    refine ⟨⟨fun v hv => ?_, BudgetOk.of_none (hnone _ (by decide)), BudgetOk.of_none (hnone _ (by decide))⟩, ?_, ?_, ?_,
      ?_, ?_⟩
    · rw [hmap] at hv; cases hv; exact .inr ⟨n, rfl⟩
    · rw [budgetOk_int hmap]
      simp [he, hp, hn]
    · simp [Endpoint.maxTokens, he, hp, hmap]
    · simp only [Endpoint.maxTokens, he, if_true, hp, hmap, hnull, iff_true]
      trivial
    · simp [Endpoint.maxNewTokens, he, hnone]
    · simp [he, hnone]

/-- Whatever body an endpoint hands on. -/
theorem Routed.handedOn {G : DioGateway K} (hc : 0 < G.maxTokensCap) {e : Endpoint} {body body' : Obj}
    {allowed : Option (List String)} (h : Routed G e body body' allowed) : HandedOn G.U G.maxTokensCap e body body' := by
  obtain ⟨hvalid, -, -, -, htrans⟩ := h
  have hcore : ∀ k ∈ ["messages", "prompt"], ∀ m v : Json, ∀ key ∈ "parameters" :: budgetKeys,
      Dict.get? [("model", m), (k, v)] key = none := by
    intro k hk m v key hkey
    simp only [budgetKeys, List.mem_cons, List.not_mem_nil, or_false] at hk hkey
    rcases hk with rfl | rfl <;> rcases hkey with rfl | rfl | rfl | rfl <;> rfl
  cases e with
  | chatCompletions => cases htrans; exact handedOn_openai hc rfl hvalid
  | completions => cases htrans; exact handedOn_openai hc rfl hvalid
  | ollamaChat => exact handedOn_ollama rfl (hcore _ (by decide) _ _) (ollamaBody_translated htrans)
  | ollamaGenerate => exact handedOn_ollama rfl (hcore _ (by decide) _ _) (ollamaBody_translated htrans)

/-- What a call forwards is within the cap exactly when the client's budgets are safe for it. -/
theorem upstream_withinCap_iff {G : DioGateway K} {c : Int} {e : Endpoint} {b : Backend} {body body' : Obj}
    (h : HandedOn G.U c e body body') {call : Call K} (hup : Upstream G e b body' call) {request : HttpRequest}
    (hf : call.forwarded = some request) :
    WithinCap c b request.payload ↔ BudgetSafe G.U c e b body call := by
  have hsafe : BudgetSafe G.U c e b body call ↔ BudgetOk c body' "max_tokens" ∧ (Defaulted e b body call → 64 ≤ c) ∧
      (e.isOllama = false → b.apiStyle = .tgiGenerate → (∃ n request, call = .buildRequest n request) →
        ∀ params, Dict.get? body "parameters" = some (.obj params) → Capped c params) :=
    ⟨fun hs => ⟨h.budget.2 hs.numPredict, hs.default, hs.parameters⟩, fun hs => ⟨h.budget.1 hs.1, hs.2.1, hs.2.2⟩⟩
  -- no site rewrites a budget on the way
  have hkept : ∀ key ∈ "parameters" :: budgetKeys, key ≠ "model" ∧ key ≠ "stream" ∧ key ≠ "stream_options" := by
    intro key hkey
    simp only [budgetKeys, List.mem_cons, List.not_mem_nil, or_false] at hkey
    rcases hkey with rfl | rfl | rfl | rfl <;> decide
  have htranslated : e.isOllama = true → ∀ payload n request,
      (∀ key ∈ "parameters" :: budgetKeys, Dict.get? payload key = Dict.get? body' key) →
      (WithinCap c b payload ↔ BudgetSafe G.U c e b body (.buildRequest n request : Call K)) := by
    intro he payload n request hkeys
    rw [withinCap_streamed h.budgeted hkeys, h.parameters, h.budget]
    constructor
    · intro hs; exact ⟨hs.1, False.elim, fun ho => by rw [he] at ho; cases ho⟩
    · intro hs; exact ⟨hs.numPredict, fun _ params hp => by simp [he] at hp⟩
  cases hup with
  | forwarded hr =>
    obtain ⟨payload, hp, rfl⟩ := Backend.forward_eq_ok.1 hr
    cases hf
    rw [hsafe, withinCap_forward h.budgeted hp, h.given, h.givenNew]
    simp [Defaulted]
  | fellBack hpath hprompt hr =>
    obtain ⟨payload, hp, rfl⟩ := Backend.forward_eq_ok.1 hr
    cases hf
    rw [hsafe, withinCap_fallback h.budgeted hp, h.given, h.maxTokens]
    simp [Defaulted, or_imp]
  | relayed he =>
    cases hf
    rw [hsafe, show (streamRequest G b e.path (streamPayload b body')).payload = streamPayload b body' from rfl,
      withinCap_streamed h.budgeted fun key hkey => get?_streamPayload b body' (hkept key hkey).1 (hkept key hkey).2.1,
      h.parameters]
    simp [Defaulted, he]
  | translated he =>
    cases hf
    exact htranslated he _ _ _ fun key hkey =>
      get?_ollamaStreamPayload b body' (hkept key hkey).1 (hkept key hkey).2.1 (hkept key hkey).2.2
  | retried he =>
    cases hf
    exact htranslated he _ _ _ fun key hkey =>
      get?_retriedPayload b body' (hkept key hkey).1 (hkept key hkey).2.1 (hkept key hkey).2.2

section Field

variable [Field K] [LinearOrder K] [FloorRing K]

/-- Under a cap, every payload a request forwards to a backend has its budgets within the cap exactly
when Ollama's `num_predict` is within it, the default is where it is put in, and the TGI parameters of
a stream relayed to a TGI engine are. -/
theorem budgets_capped_iff (G : DioGateway K) (hc : 0 < G.maxTokensCap) (e : Endpoint) (body : Obj)
    {t : List (Event (sig K))} {x : Except Exn Unit} (h : (serve (e.handle G body)).Exec t x) {call : Call K}
    {r : call.Res} (hcall : ⟨call, r⟩ ∈ t) {request : HttpRequest} (hf : call.forwarded = some request) :
    ∃ a w d b, ⟨.pick a, .ok (w, d)⟩ ∈ t ∧ G.pool.get? w = some b ∧
      (WithinCap G.maxTokensCap b request.payload ↔ BudgetSafe G.U G.maxTokensCap e b body call) := by
  obtain ⟨body', allowed, a, w, d, b, hrouted, hpick, hb, hup⟩ := endpoint_upstream h hcall hf
  exact ⟨a, w, d, b, hpick, hb, upstream_withinCap_iff (hrouted.handedOn hc) hup hf⟩

end Field

/-! ## Examples -/

/-- A gateway with a cap of 100 tokens. -/
def capped : DioGateway ℚ := { oneBackend with maxTokensCap := 100 }

/-- The events of a request to a gateway whose engine answers 200. -/
def requestRun (G : DioGateway ℚ) (e : Endpoint) (body : Obj) : List (Event (sig ℚ)) :=
  (Prog.run (Answers.env {}) (serve (e.handle G body))).1

/-- A completion with a budget of 50. -/
def fiftyTokens : Obj := [("prompt", .str "hello"), ("max_tokens", .int 50)]

theorem budgets_capped_fifty : ∃ request r b, ⟨.post .first request, r⟩ ∈ requestRun capped .completions fiftyTokens ∧
    b ∈ capped.pool.backends ∧ WithinCap 100 b request.payload := by
  have hpost : ⟨.post .first ⟨"http://a/v1/completions", [], .fin 120, fiftyTokens⟩, _⟩ ∈
      requestRun capped .completions fiftyTokens := List.mem_of_getElem? (i := 2) rfl
  obtain ⟨a, w, d, b, -, hb, hcap⟩ :=
    budgets_capped_iff capped (by decide) .completions fiftyTokens (Prog.exec_run _ _) hpost rfl
  have hmem : b ∈ capped.pool.backends := (BackendPool.get?_some hb).1
  have hone : b = { id := "gpu0", baseUrl := "http://a" } := List.mem_singleton.1 hmem
  refine ⟨_, _, b, hpost, hmem, hcap.2 ⟨nofun, ?_, ?_⟩⟩
  · rintro ⟨htgi, -⟩; rw [hone] at htgi; cases htgi
  · intro _ htgi; rw [hone] at htgi; cases htgi

/-- An Ollama request for a million tokens. -/
def millionTokens : Obj :=
  [("prompt", .str "hello"), ("stream", .bool false), ("options", .obj [("num_predict", .int 1000000)])]

/-- It is forwarded as it is. -/
theorem num_predict_uncapped : ∃ request r, ⟨.post .first request, r⟩ ∈ requestRun capped .ollamaGenerate millionTokens ∧
    Dict.get? request.payload "max_tokens" = some (.int 1000000) ∧
      ∀ b, ¬ WithinCap capped.maxTokensCap b request.payload := by
  refine ⟨_, _, List.mem_of_getElem? (i := 2) rfl, rfl, fun b h => ?_⟩
  exact absurd ((budgetOk_int rfl).1 (h.1 "max_tokens" (by decide))) (by decide)

end Dio.Gateway
