/-
What the router measures of a body and what a TGI engine is sent of it: the completion budget and the
prompt. Each side reads the body on its own, under its own member names and with its own defaults.
-/
import DioServe.Gateway.PromptCap

namespace Dio.Gateway

open Data Py Effect Scheduler

variable {K : Type}

/-! ## The completion budget -/

/-- The budget the router adds to the prompt (`max(1, out)`). -/
def addedBudget (U : Unicode) (body : Obj) : Except PyErr Int := do return max 1 (← routedBudget U body)

/-- The budget of a TGI payload. -/
def sentBudget (payload : Obj) : Option Json :=
  match Dict.get? payload "parameters" with
  | some (.obj params) => Dict.get? params "max_new_tokens"
  | _ => none

/-- A checked budget, 64 where none is given. -/
def budgetOr64 : Option Json → Int
  | some (.int n) => n
  | _ => 64

/-- When both sides read one budget: it comes as `max_tokens`, or the name each reads next gives the
same. A chat that fell back to completions is left with the default. -/
def SameBudget (body : Obj) : Attempt → Prop
  | .first => Given (Dict.get? body "max_tokens") ∨
      budgetOr64 (Dict.get? body "max_completion_tokens") = budgetOr64 (Dict.get? body "max_new_tokens")
  | .again => Given (Dict.get? body "max_tokens") ∨ budgetOr64 (Dict.get? body "max_completion_tokens") = 64

section Budget

variable {U : Unicode} {body : Obj} {cap : Int}

/-- A budget that passes its check is absent, null or a positive integer. -/
theorem checkedBudget_cases {key : String} (h : validateBudget U body cap key = none) :
    (¬ Given (Dict.get? body key) ∧ (Dict.get? body key).getD .null = .null ∧ budgetOr64 (Dict.get? body key) = 64) ∨
      ∃ n : Int, Dict.get? body key = some (.int n) ∧ 1 ≤ n := by
  unfold validateBudget at h
  cases hv : Dict.get? body key with
  | none => exact .inl ⟨id, rfl, rfl⟩
  | some v =>
    rw [hv, Option.getD_some] at h
    cases v with
    | null => exact .inl ⟨id, rfl, rfl⟩
    | int n =>
      dsimp only at h
      split at h
      · cases h
      · rename_i hn
        exact .inr ⟨n, rfl, by omega⟩
    | _ => cases h

variable {path : Path} (hvalid : validateOpenaiBody U (.obj body) path cap = none)
include hvalid

/-- What the router adds for a valid body. -/
theorem addedBudget_of_valid :
    (Given (Dict.get? body "max_tokens") → addedBudget U body = .ok (budgetOr64 (Dict.get? body "max_tokens"))) ∧
      (¬ Given (Dict.get? body "max_tokens") →
        addedBudget U body = .ok (budgetOr64 (Dict.get? body "max_completion_tokens"))) := by
  have hmt := checkedBudget_cases (budgets_of_valid hvalid "max_tokens" (by decide))
  have hmct := checkedBudget_cases (budgets_of_valid hvalid "max_completion_tokens" (by decide))
  -- a positive integer is true, so it is read as it is
  have hint : ∀ {n : Int} (other : Json), 1 ≤ n → (Json.int n).orElse other = .int n := fun other hn =>
    Json.orElse_of_truthy _ (by simp only [Json.truthy, ne_eq, decide_eq_true_eq]; omega)
  have hmax : ∀ {n : Int}, 1 ≤ n → (do return max 1 (← (Json.int n).toInt U) : Except PyErr Int) = .ok n := by
    intro n hn
    show Except.ok (max 1 n) = .ok n
    rw [max_eq_right hn]
  unfold addedBudget routedBudget
  rcases hmt with ⟨hno, hnull, -⟩ | ⟨n, hn, hpos⟩
  · refine ⟨fun h => absurd h hno, fun _ => ?_⟩
    rw [hnull]
    rcases hmct with ⟨-, hnull', h64⟩ | ⟨m, hm, hpos⟩
    · rw [hnull', h64]
      exact hmax (by decide)
    · rw [hm, Option.getD_some, Json.orElse_of_falsy (.int m) (j := .null) rfl, hint _ hpos]
      exact hmax hpos
  · refine ⟨fun _ => ?_, fun h => absurd trivial (by rwa [hn] at h)⟩
    rw [hn, Option.getD_some, hint _ hpos, hint _ hpos]
    exact hmax hpos

/-- What TGI is asked for, for a valid body. -/
theorem tgiMaxNew_of_valid :
    (Given (Dict.get? body "max_tokens") → tgiMaxNew U body = .ok (budgetOr64 (Dict.get? body "max_tokens"))) ∧
      (¬ Given (Dict.get? body "max_tokens") →
        tgiMaxNew U body = .ok (budgetOr64 (Dict.get? body "max_new_tokens"))) := by
  have hmt := checkedBudget_cases (budgets_of_valid hvalid "max_tokens" (by decide))
  have hmnt := checkedBudget_cases (budgets_of_valid hvalid "max_new_tokens" (by decide))
  unfold tgiMaxNew
  rcases hmt with ⟨hno, hnull, -⟩ | ⟨n, hn, -⟩
  · refine ⟨fun h => absurd h hno, fun _ => ?_⟩
    rcases hmnt with ⟨-, hnull', h64⟩ | ⟨m, hm, -⟩
    · rw [hnull, hnull', h64]; rfl
    · rw [hnull, hm]; rfl
  · exact ⟨fun _ => by rw [hn]; rfl, fun h => absurd trivial (by rwa [hn] at h)⟩

/-- What TGI is asked for once a valid chat fell back to completions. -/
theorem tgiMaxNew_fallback (prompt : String) :
    tgiMaxNew U (fallbackBody body prompt) = .ok (budgetOr64 (Dict.get? body "max_tokens")) := by
  have hget : Dict.get? (fallbackBody body prompt) "max_tokens" =
      some ((Dict.get? body "max_tokens").getD (.int 64)) := rfl
  have hnew : Dict.get? (fallbackBody body prompt) "max_new_tokens" = none := rfl
  unfold tgiMaxNew
  rw [hget, hnew]
  cases hv : Dict.get? body "max_tokens" with
  | none => rfl
  | some v =>
    rcases checkedBudget_cases (budgets_of_valid hvalid "max_tokens" (by decide)) with ⟨-, hnull, -⟩ | ⟨n, hn, -⟩
    · rw [hv, Option.getD_some] at hnull
      subst hnull; rfl
    · rw [hv] at hn
      cases hn; rfl

end Budget

/-- The feature is the prompt's tokens and the budget added. -/
theorem countTokens_eq {U : Unicode} {body : Obj} {out : Int} (h : addedBudget U body = .ok out) (prompt : String) :
    countTokens U none prompt body = .ok (promptTokens none prompt + out) := by
  obtain ⟨n, hn, hout⟩ := bind_eq_ok.1 h
  cases hout
  unfold countTokens estimateTokensHeuristic
  rw [hn]
  rfl

/-- The budget of a translated payload. -/
theorem sentBudget_tgi {U : Unicode} {body payload : Obj} (h : openaiChatToTgiGenerate U body = .ok payload) :
    ∃ n, tgiMaxNew U body = .ok n ∧ sentBudget payload = some (.int n) := by
  obtain ⟨inputs, params, n, rfl, hn, hkeys⟩ := tgiGenerate_budget h
  exact ⟨n, hn, hkeys "max_new_tokens" (by decide)⟩

/-- The budget sent with a valid body is the one added exactly when both sides read the same. -/
theorem sentBudget_eq_iff {U : Unicode} {body payload : Obj} {cap out : Int} {path : Path}
    (hvalid : validateOpenaiBody U (.obj body) path cap = none) (hout : addedBudget U body = .ok out)
    (hp : openaiChatToTgiGenerate U body = .ok payload) :
    sentBudget payload = some (.int out) ↔ SameBudget body .first := by
  obtain ⟨hadd, hadd'⟩ := addedBudget_of_valid hvalid
  obtain ⟨htgi, htgi'⟩ := tgiMaxNew_of_valid hvalid
  obtain ⟨n, hn, hsent⟩ := sentBudget_tgi hp
  rw [hsent, Option.some.injEq, Json.int.injEq, SameBudget]
  by_cases hg : Given (Dict.get? body "max_tokens")
  · rw [hadd hg] at hout
    rw [htgi hg] at hn
    exact iff_of_true (Except.ok.inj (hn.symm.trans hout)) (.inl hg)
  · rw [hadd' hg] at hout
    rw [htgi' hg] at hn
    cases hout; cases hn
    constructor
    · intro h; exact .inr h.symm
    · intro h; exact (h.resolve_left hg).symm

theorem sentBudget_fallback_iff {U : Unicode} {body payload : Obj} {cap out : Int} {path : Path} {prompt : String}
    (hvalid : validateOpenaiBody U (.obj body) path cap = none) (hout : addedBudget U body = .ok out)
    (hp : openaiChatToTgiGenerate U (fallbackBody body prompt) = .ok payload) :
    sentBudget payload = some (.int out) ↔ SameBudget body .again := by
  obtain ⟨hadd, hadd'⟩ := addedBudget_of_valid hvalid
  obtain ⟨n, hn, hsent⟩ := sentBudget_tgi hp
  rw [tgiMaxNew_fallback hvalid] at hn
  rw [hsent, Option.some.injEq, Json.int.injEq, SameBudget]
  by_cases hg : Given (Dict.get? body "max_tokens")
  · rw [hadd hg] at hout
    exact iff_of_true (Except.ok.inj (hn.symm.trans hout)) (.inl hg)
  · have h64 : budgetOr64 (Dict.get? body "max_tokens") = 64 := by
      rcases checkedBudget_cases (budgets_of_valid hvalid "max_tokens" (by decide)) with ⟨-, -, h⟩ | ⟨m, hm, -⟩
      · exact h
      · exact absurd trivial (by rwa [hm] at hg)
    rw [hadd' hg] at hout
    rw [h64] at hn
    cases hout; cases hn
    constructor
    · intro h; exact .inr h.symm
    · intro h; exact (h.resolve_left hg).symm

section Field

variable [Field K] [LinearOrder K] [FloorRing K]

/-- For a valid body on the JSON path, the budget sent to a TGI engine is the one the router added to the
prompt exactly when both sides read the same one. -/
theorem tgi_budget_agrees_iff (G : DioGateway K) (htok : G.tokenizer = none) {body : Obj} {path : Path} {cap : Int}
    (hvalid : validateOpenaiBody G.U (.obj body) path cap = none) {tier : String} {allowed : Option (List String)}
    {t : List (Event (sig K))} {x : Except Exn (JsonResponse K)} (h : (proxyJson G body path tier allowed).Exec t x)
    {n : Attempt} {request : HttpRequest} {r : (Call.post n request : Call K).Res} (hpost : ⟨.post n request, r⟩ ∈ t) :
    ∃ prompt out tokens w d b, extractPrompt G.U body = .ok prompt ∧ addedBudget G.U body = .ok out ∧
      countTokens G.U G.tokenizer prompt body = .ok (promptTokens G.tokenizer prompt + out) ∧
      featureTokens G.U G.tokenizer G.tokenFeatureCap prompt body = .ok tokens ∧
      ⟨.pick ⟨prompt, tier, some tokens, allowed⟩, .ok (w, d)⟩ ∈ t ∧ G.pool.get? w = some b ∧
      (b.apiStyle = .tgiGenerate → (sentBudget request.payload = some (.int out) ↔ SameBudget body n)) := by
  obtain ⟨a, w, d, hpick⟩ :=
    picked_of_forwarded (fun _ => inert_jsonResponse.plain) h hpost (Option.some_ne_none request)
  obtain ⟨prompt, tokens, t', hprompt, htokens, rfl, rfl, h'⟩ :=
    exec_admission_on (fun _ => inert_jsonResponse.plain.pickless) (fun _ _ _ _ => pickless_jsonAdmitted) h hpick
  obtain ⟨out, hout⟩ : ∃ out, addedBudget G.U body = .ok out := by
    obtain ⟨hadd, hadd'⟩ := addedBudget_of_valid hvalid
    by_cases hg : Given (Dict.get? body "max_tokens")
    · exact ⟨_, hadd hg⟩
    · exact ⟨_, hadd' hg⟩
  -- the posts of an admitted request carry the body, or the completion it fell back to
  have honly : Prog.Only (fun ev : Event (sig K) => ∀ n request, ev.op = Call.post n request →
      ∃ b, G.pool.get? w = some b ∧
        (b.apiStyle = .tgiGenerate → (sentBudget request.payload = some (.int out) ↔ SameBudget body n)))
      (jsonAdmitted G body path prompt tokens w d) := by
    refine only_jsonAdmitted (fun ev hplain n request hop => ?_)
      (only_exchange (fun b request r hb hr n request' hop => ?_) fun b request r _ hb hr n request' hop => ?_)
    · rw [hop] at hplain; cases hplain
    all_goals
      cases hop
      refine ⟨b, hb, fun htgi => ?_⟩
      obtain ⟨payload, hp, rfl⟩ := Backend.forward_eq_ok.1 hr
      unfold Backend.forwardPayload at hp
      rw [if_pos htgi] at hp
    · exact sentBudget_eq_iff hvalid hout hp
    · exact sentBudget_fallback_iff hvalid hout hp
  have hmem := (List.mem_cons.1 hpost).resolve_left (by rintro ⟨⟩)
  obtain ⟨b, hb, hsame⟩ := honly _ _ h' _ hmem n request rfl
  refine ⟨prompt, out, tokens, w, d, b, hprompt, hout, ?_, htokens, List.mem_cons_self .., hb, hsame⟩
  rw [htok]
  exact countTokens_eq hout prompt

end Field

/-- A gateway with one TGI engine. -/
def oneTgi : DioGateway ℚ :=
  { oneBackend with pool := .ofList [{ id := "gpu0", baseUrl := "http://a", apiStyle := .tgiGenerate }] }

/-- The events of the JSON path on a completion, with an engine that answers 200. -/
def tgiRun (body : Obj) : List (Event (sig ℚ)) :=
  (Prog.run (Answers.env {}) (proxyJson oneTgi body .completions "small" none)).1

theorem fifty_valid : validateOpenaiBody oneTgi.U (.obj fiftyTokens) .completions 0 = none := by decide

/-- With 50 tokens as `max_tokens` the two budgets agree. -/
theorem tgi_budget_agrees_fifty : ∃ prompt out request r, ⟨.post .first request, r⟩ ∈ tgiRun fiftyTokens ∧
    countTokens Unicode.ascii none prompt fiftyTokens = .ok (promptTokens none prompt + out) ∧
    sentBudget request.payload = some (.int out) := by
  obtain ⟨request, r, hpost⟩ : ∃ request r, ⟨.post .first request, r⟩ ∈ tgiRun fiftyTokens :=
    ⟨_, _, List.mem_of_getElem? (i := 2) rfl⟩
  obtain ⟨prompt, out, tokens, w, d, b, -, -, hcount, -, -, hb, hiff⟩ :=
    tgi_budget_agrees_iff oneTgi rfl fifty_valid (Prog.exec_run _ _) hpost
  have hone : b = { id := "gpu0", baseUrl := "http://a", apiStyle := .tgiGenerate } :=
    List.mem_singleton.1 (BackendPool.get?_some hb).1
  exact ⟨prompt, out, request, r, hpost, hcount, (hiff (by rw [hone])).2 (.inl trivial)⟩

/-- A completion with a budget of 1000 under the newer name. -/
def thousandTokens : Obj := [("prompt", .str "hello"), ("max_completion_tokens", .int 1000)]

/-- The router adds 1000 tokens, and TGI is asked for 64. -/
theorem tgi_budget_ignored : validateOpenaiBody Unicode.ascii (.obj thousandTokens) .completions 0 = none ∧
    countTokens Unicode.ascii none "hello" thousandTokens = .ok (promptTokens none "hello" + 1000) ∧
    ∃ request r, ⟨.post .first request, r⟩ ∈ tgiRun thousandTokens ∧
      sentBudget request.payload = some (.int 64) :=
  ⟨by decide, rfl, _, _, List.mem_of_getElem? (i := 2) rfl, rfl⟩

/-! ## The prompt -/

/-- An OpenAI content part: a text part has a text. -/
def ContentPart : Json → Prop
  | .obj part => isStr "text" ((Dict.get? part "type").getD .null) = true → ∃ s, Dict.get? part "text" = some (.str s)
  | _ => False

/-- A text, or a list of content parts. -/
def ChatContent : Json → Prop
  | .str _ => True
  | .arr ps => ∀ p ∈ ps, ContentPart p
  | _ => False

def ChatMessage : Json → Prop
  | .obj m => ∃ c, Dict.get? m "content" = some c ∧ ChatContent c
  | _ => False

/-- The content of a message is one text. -/
def PlainMessage : Json → Prop
  | .obj m => ∃ s, Dict.get? m "content" = some (.str s)
  | _ => False

section Lengths

variable (U : Unicode)

theorem length_escapeChar (q c : Char) : 1 ≤ (escapeChar U q c).length := by
  unfold escapeChar
  split_ifs <;> simp only [List.length_cons] <;> omega

theorem length_reprStr (s : String) : s.length + 2 ≤ (reprStr U s).length := by
  have hflat : ∀ (q : Char) (cs : List Char), cs.length ≤ (cs.flatMap (escapeChar U q)).length := by
    intro q cs
    induction cs with
    | nil => exact Nat.le_refl _
    | cons c cs ih =>
      have hc := length_escapeChar U q c
      rw [List.flatMap_cons, List.length_append, List.length_cons]
      omega
  unfold Py.reprStr
  simp only [String.length_ofList, List.length_cons, List.length_append, List.length_nil]
  have hs := hflat (if s.toList.contains '\'' && !s.toList.contains '"' then '"' else '\'') s.toList
  rw [String.length_toList] at hs
  omega

theorem length_le_intercalate (sep : String) {t : String} {ts : List String} (h : t ∈ ts) :
    t.length ≤ (sep.intercalate ts).length := by
  induction ts with
  | nil => cases h
  | cons u us ih =>
    have hcons := length_intercalate_cons sep u us
    rcases List.mem_cons.1 h with rfl | h
    · omega
    · have hrec := ih h
      omega

/-- A text member is shown in the `repr` of its object. -/
theorem length_repr_obj {part : Obj} {k s : String} (h : Dict.get? part k = some (.str s)) :
    s.length + 2 ≤ (repr U (.obj part)).length := by
  have hmem : ∀ {kvs : Obj}, (k, Json.str s) ∈ kvs → (reprStr U k ++ ": " ++ reprStr U s) ∈ reprItems U kvs := by
    intro kvs hkv
    induction kvs with
    | nil => cases hkv
    | cons kv kvs ih =>
      rcases List.mem_cons.1 hkv with rfl | hkv
      · exact List.mem_cons_self ..
      · exact List.mem_cons_of_mem _ (ih hkv)
  have hle := length_le_intercalate ", " (hmem (Dict.mem_of_get? h))
  have hs := length_reprStr U s
  simp only [Py.repr, String.length_append] at hle ⊢
  omega

/-- Joined texts are at most as long as the `repr`s of the parts they are taken from. -/
theorem length_partTexts_le {ps : List Json} (hps : ∀ p ∈ ps, ContentPart p) : ∃ texts, partTexts ps = .ok texts ∧
    (" ".intercalate texts).length ≤ (", ".intercalate (reprElems U ps)).length := by
  induction ps with
  | nil => exact ⟨[], rfl, Nat.le_refl _⟩
  | cons p ps ih =>
    obtain ⟨hp, hps⟩ := List.forall_mem_cons.1 hps
    obtain ⟨texts, ht, hle⟩ := ih hps
    have hrepr := length_intercalate_cons ", " (repr U p) (reprElems U ps)
    cases p with
    | obj part =>
      unfold partTexts
      by_cases htype : isStr "text" ((Dict.get? part "type").getD .null) = true
      · obtain ⟨s, hs⟩ := hp htype
        have hlen := length_repr_obj U hs
        have hjoin : (" ".intercalate (s :: texts)).length ≤ s.length + 1 + (" ".intercalate texts).length := by
          cases texts with
          | nil => simp
          | cons t ts =>
            have h1 : (" " : String).length = 1 := rfl
            rw [String.intercalate_cons_cons, String.length_append, String.length_append, h1]
        refine ⟨s :: texts, ?_, ?_⟩
        · rw [if_pos htype, hs, Option.getD_some, ht]; rfl
        · simp only [reprElems]; omega
      · refine ⟨texts, ?_, ?_⟩
        · rw [if_neg htype, ht]
        · simp only [reprElems]; omega
    | _ => exact hp.elim

/-- A content as the router reads it: the text itself, or shorter than what TGI is sent of it. -/
theorem contentText_cases {c : Json} (hc : ChatContent c) : ∃ text, contentText U c = .ok text ∧
    ((∃ s, c = .str s) ∧ text = str U c ∨ (¬ ∃ s, c = .str s) ∧ text.length < (str U c).length) := by
  cases c with
  | str s => exact ⟨s, rfl, .inl ⟨⟨s, rfl⟩, rfl⟩⟩
  | arr ps =>
    obtain ⟨texts, ht, hle⟩ := length_partTexts_le U hc
    have htext : contentText U (.arr ps) = .ok (" ".intercalate texts) := by
      show (partTexts ps >>= fun ts => Except.ok (" ".intercalate ts)) = _
      rw [ht, ok_bind]
    refine ⟨_, htext, .inr ⟨?_, ?_⟩⟩
    · rintro ⟨s, h⟩; cases h
    · show _ < ("[" ++ ", ".intercalate (reprElems U ps) ++ "]").length
      have h1 : ("[" : String).length = 1 := rfl
      rw [String.length_append, String.length_append, h1]
      omega
  | _ => exact hc.elim

theorem length_intercalate (sep t : String) (ts : List String) : (sep.intercalate (t :: ts)).length =
    t.length + if ts = [] then 0 else sep.length + (sep.intercalate ts).length := by
  cases ts with
  | nil => simp
  | cons u us =>
    rw [String.intercalate_cons_cons, String.length_append, String.length_append, if_neg (List.cons_ne_nil _ _)]
    omega

/-- The lines of a conversation on both sides: the same where every content is one text, and otherwise
longer in all on TGI's side. -/
theorem turns_cases {ms : List Json} (hms : ∀ m ∈ ms, ChatMessage m) : ∃ turns turns', promptTurns U ms = .ok turns ∧
    tgiTurns U ms = .ok turns' ∧ (turns = [] ↔ turns' = []) ∧
    ((∀ m ∈ ms, PlainMessage m) ∧ turns = turns' ∨
      (¬ ∀ m ∈ ms, PlainMessage m) ∧ ("\n".intercalate turns).length < ("\n".intercalate turns').length) := by
  induction ms with
  | nil => exact ⟨[], [], rfl, rfl, Iff.rfl, .inl ⟨List.forall_mem_nil _, rfl⟩⟩
  | cons m ms ih =>
    obtain ⟨hm, hms⟩ := List.forall_mem_cons.1 hms
    obtain ⟨turns, turns', ht, ht', hnil, hrest⟩ := ih hms
    cases m with
    | obj kvs =>
      obtain ⟨c, hc, hchat⟩ := hm
      obtain ⟨text, htext, hcase⟩ := contentText_cases U hchat
      have hcontent : (Dict.get? kvs "content").getD (.str "") = c := by rw [hc]; rfl
      have hplain : PlainMessage (.obj kvs) ↔ ∃ s, c = .str s :=
        exists_congr fun s => by rw [hc, Option.some.injEq]
      let role := str U ((Dict.get? kvs "role").getD (.str "user"))
      refine ⟨(role ++ ": " ++ text) :: turns, (role ++ ": " ++ str U c) :: turns', ?_, ?_, by simp, ?_⟩
      · simp only [promptTurns, Json.getD_obj, hcontent, ok_bind, htext, ht]; rfl
      · simp only [tgiTurns, Json.getD_obj, hcontent, ok_bind, ht']; rfl
      · rw [List.forall_mem_cons, hplain]
        have hlen := length_intercalate "\n" (role ++ ": " ++ text) turns
        have hlen' := length_intercalate "\n" (role ++ ": " ++ str U c) turns'
        simp only [String.length_append, hnil] at hlen hlen'
        rcases hcase with ⟨hs, rfl⟩ | ⟨hs, hlt⟩ <;> rcases hrest with ⟨hall, rfl⟩ | ⟨hall, hless⟩
        · exact .inl ⟨⟨hs, hall⟩, rfl⟩
        · refine .inr ⟨fun h => hall h.2, ?_⟩
          have hne : turns' ≠ [] := by
            intro h
            rw [h, hnil.2 h] at hless
            exact Nat.lt_irrefl _ hless
          rw [if_neg hne] at hlen hlen'
          omega
        · exact .inr ⟨fun h => hs h.1, by omega⟩
        · refine .inr ⟨fun h => hs h.1, ?_⟩
          split at hlen <;> split at hlen' <;> first | omega | contradiction
    | _ => exact hm.elim

end Lengths

/-- TGI is sent the prompt the router measured, and a line for the answer, exactly when the content of
every message is one text. -/
theorem tgi_prompt_agrees_iff (U : Unicode) {body : Obj} {m : Json} {ms : List Json}
    (hmessages : Dict.get? body "messages" = some (.arr (m :: ms))) (hchat : ∀ m' ∈ m :: ms, ChatMessage m')
    {payload : Obj} (h : openaiChatToTgiGenerate U body = .ok payload) : ∃ prompt, extractPrompt U body = .ok prompt ∧
      (Dict.get? payload "inputs" = some (.str (prompt ++ "\nassistant:")) ↔ ∀ m' ∈ m :: ms, PlainMessage m') := by
  obtain ⟨turns, turns', ht, ht', -, hcase⟩ := turns_cases U hchat
  have hextract : extractPrompt U body = .ok ("\n".intercalate turns) := by
    have hbind : extractPrompt U body = promptTurns U (m :: ms) >>= fun turns => .ok ("\n".intercalate turns) := by
      simp only [extractPrompt, hmessages]; rfl
    rw [hbind, ht, ok_bind]
  have hinputs : tgiInputs U body = .ok ("\n".intercalate turns' ++ "\nassistant:") := by
    have hbind : tgiInputs U body =
        tgiTurns U (m :: ms) >>= fun turns => .ok ("\n".intercalate turns ++ "\nassistant:") := by
      simp only [tgiInputs, hmessages]; rfl
    rw [hbind, ht', ok_bind]
  have hpayload : Dict.get? payload "inputs" = some (.str ("\n".intercalate turns' ++ "\nassistant:")) := by
    unfold openaiChatToTgiGenerate at h
    rw [hinputs, ok_bind] at h
    obtain ⟨n, -, h⟩ := bind_eq_ok.1 h
    obtain ⟨p₁, -, h⟩ := bind_eq_ok.1 h
    obtain ⟨p₂, -, h⟩ := bind_eq_ok.1 h
    obtain ⟨p₃, -, h⟩ := bind_eq_ok.1 h
    obtain ⟨p₄, -, h⟩ := bind_eq_ok.1 h
    obtain ⟨params, -, h⟩ := bind_eq_ok.1 h
    cases h; rfl
  refine ⟨_, hextract, ?_⟩
  rw [hpayload]
  rcases hcase with ⟨hall, rfl⟩ | ⟨hall, hless⟩
  · exact iff_of_true rfl hall
  · refine iff_of_false (fun he => ?_) hall
    rw [Option.some.injEq, Json.str.injEq] at he
    have hlen := congrArg String.length he
    rw [String.length_append, String.length_append] at hlen
    omega

/-- A chat of one plain message. -/
def plainChat : Obj := [("messages", .arr [.obj [("role", .str "user"), ("content", .str "hi")]])]

theorem tgi_prompt_agrees_plain : ∃ prompt payload, extractPrompt Unicode.ascii plainChat = .ok prompt ∧
    openaiChatToTgiGenerate Unicode.ascii plainChat = .ok payload ∧
    Dict.get? payload "inputs" = some (.str (prompt ++ "\nassistant:")) := by
  have hplain : ∀ m ∈ [Json.obj [("role", .str "user"), ("content", .str "hi")]], PlainMessage m := by
    intro m hm
    rw [List.mem_singleton.1 hm]
    exact ⟨"hi", rfl⟩
  have hchat : ∀ m ∈ [Json.obj [("role", .str "user"), ("content", .str "hi")]], ChatMessage m := by
    intro m hm
    rw [List.mem_singleton.1 hm]
    exact ⟨.str "hi", rfl, trivial⟩
  obtain ⟨payload, h⟩ : ∃ payload, openaiChatToTgiGenerate Unicode.ascii plainChat = .ok payload := ⟨_, rfl⟩
  obtain ⟨prompt, hp, hiff⟩ :=
    tgi_prompt_agrees_iff Unicode.ascii (show Dict.get? plainChat "messages" = _ from rfl) hchat h
  exact ⟨prompt, payload, hp, h, hiff.2 hplain⟩

/-- A chat of one message with one text part. -/
def partsChat : Obj :=
  [("messages", .arr [.obj [("role", .str "user"),
    ("content", .arr [.obj [("type", .str "text"), ("text", .str "hi")]])]])]

/-- The router reads the text, TGI is sent the list as Python shows it. -/
theorem tgi_prompt_shown : extractPrompt Unicode.ascii partsChat = .ok "user: hi" ∧
    tgiInputs Unicode.ascii partsChat = .ok "user: [\x7b'type': 'text', 'text': 'hi'\x7d]\nassistant:" :=
  ⟨by decide, by decide⟩

end Dio.Gateway
