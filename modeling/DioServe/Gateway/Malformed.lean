/-
Malformed bodies that pass their validation (`_validate_openai_body`). It checks that there are messages,
not what they are, and no Ollama option, so what reads the messages and the options raises on some of
the bodies it lets through, and does on no others.
-/
import DioServe.Gateway.PromptCap
import DioServe.Gateway.ReplyParity

namespace Dio.Gateway

open Data Py Effect Scheduler

variable {K : Type}

/-! ## Shapes that can be read -/

/-- A part of a multimodal content: the text of a text part is a text. -/
def PartReadable : Json → Prop
  | .obj part => isStr "text" ((Dict.get? part "type").getD .null) = true →
    ∃ s, (Dict.get? part "text").getD (.str "") = .str s
  | _ => True

/-- A message is an object, the parts of its content can be read. -/
def MessageReadable : Json → Prop
  | .obj m => ∀ ps, (Dict.get? m "content").getD (.str "") = .arr ps → ∀ p ∈ ps, PartReadable p
  | _ => False

/-- The messages of a body, if it has any, are a list of readable ones. -/
def MessagesReadable (body : Obj) : Prop :=
  ((Dict.get? body "messages").getD .null).truthy = true →
    ∃ ms, Dict.get? body "messages" = some (.arr ms) ∧ ∀ m ∈ ms, MessageReadable m

/-- The options read with `float`. -/
def floatOptions : List String := ["temperature", "top_p", "presence_penalty", "frequency_penalty"]

/-- Options that are given can be read as numbers. -/
structure OptionsReadable (U : Unicode) (options : Obj) : Prop where
  floats : ∀ key ∈ floatOptions, ∀ v, Dict.get? options key = some v → Returns (v.toFloat U)
  numPredict : ∀ v, Dict.get? options "num_predict" = some v → Returns (v.toInt U)

/-- The parts of a body that are read for an endpoint can be: the messages, which `/api/generate` reads
for the prompt cap alone, and the options of an Ollama body. -/
structure BodyReadable (G : DioGateway K) (e : Endpoint) (body : Obj) : Prop where
  messages : e ≠ .ollamaGenerate ∨ G.promptCharsCap ≠ 0 → MessagesReadable body
  options : e.isOllama = true → OptionsReadable G.U (optionsOf body)

/-- What reads a valid body returns: the check of the prompt cap, the translation of an Ollama body, the
extraction of the prompt of the body handed on, and its token count. -/
structure NeverRaises (G : DioGateway K) (e : Endpoint) (body : Obj) : Prop where
  withinCap : Returns (promptWithinCap G.U body G.promptCharsCap)
  mapped : Returns (e.openaiBody G.U body)
  extracted : ∀ body', e.openaiBody G.U body = .ok body' → Returns (extractPrompt G.U body')
  counted : ∀ body', e.openaiBody G.U body = .ok body' → ∀ prompt,
    Returns (featureTokens G.U G.tokenizer G.tokenFeatureCap prompt body')

/-! ## Reading messages -/

variable {U : Unicode}

theorem returns_partTexts : ∀ ps : List Json, Returns (partTexts ps) ↔ ∀ p ∈ ps, PartReadable p
  | [] => iff_of_true (returns_ok []) (List.forall_mem_nil _)
  | p :: ps => by
    have ih := returns_partTexts ps
    rw [List.forall_mem_cons, ← ih]
    cases p with
    | obj part =>
      simp only [partTexts, PartReadable]
      split
      · rename_i htype
        simp only [htype, true_implies]
        generalize (Dict.get? part "text").getD (.str "") = text
        cases text with
        | str s =>
          rw [returns_map]
          exact (and_iff_right ⟨s, rfl⟩).symm
        | _ =>
          apply iff_of_false (not_returns_error _)
          rintro ⟨⟨s, hs⟩, -⟩
          cases hs
      · rename_i htype
        exact (and_iff_right fun h => absurd h htype).symm
    | _ => simp only [partTexts, PartReadable, true_and]

theorem returns_contentText (content : Json) :
    Returns (contentText U content) ↔ ∀ ps, content = .arr ps → ∀ p ∈ ps, PartReadable p := by
  cases content with
  | arr ps =>
    rw [contentText, returns_map, returns_partTexts]
    simp
  | _ => exact iff_of_true (returns_ok _) nofun

theorem returns_promptTurns : ∀ ms : List Json, Returns (promptTurns U ms) ↔ ∀ m ∈ ms, MessageReadable m
  | [] => iff_of_true (returns_ok []) nofun
  | m :: ms => by
    rw [List.forall_mem_cons, ← returns_promptTurns ms]
    cases m with
    | obj m =>
      show Returns (contentText U ((Dict.get? m "content").getD (.str "")) >>= fun text => promptTurns U ms >>= fun turns =>
        pure ((str U ((Dict.get? m "role").getD (.str "user")) ++ ": " ++ text) :: turns)) ↔ _
      exact returns_bind (returns_contentText _) fun text => returns_map _
    | _ => exact iff_of_false (not_returns_error _) fun h => h.1

/-- The prompt of a body can be extracted exactly when its messages can be read. -/
theorem returns_extractPrompt (body : Obj) : Returns (extractPrompt U body) ↔ MessagesReadable body := by
  unfold extractPrompt MessagesReadable
  dsimp only
  split
  · rename_i htruthy
    simp only [htruthy, true_implies]
    cases hm : Dict.get? body "messages" with
    | none => rw [hm] at htruthy; cases htruthy
    | some messages =>
      cases messages with
      | arr ms =>
        show Returns (promptTurns U ms >>= fun turns => pure ("\n".intercalate turns)) ↔ _
        rw [returns_map, returns_promptTurns]
        simp
      | str s =>
        -- iterating a text yields texts, which are no messages
        show Returns (promptTurns U (s.toList.map fun c => .str (String.ofList [c])) >>= fun turns =>
          pure ("\n".intercalate turns)) ↔ _
        rw [returns_map, returns_promptTurns]
        refine iff_of_false (fun h => ?_) (by simp)
        obtain ⟨c, hc⟩ : ∃ c, c ∈ s.toList := List.exists_mem_of_ne_nil _ fun hnil => by
          rw [hm, Option.getD_some, Json.truthy, decide_eq_true_iff] at htruthy
          exact htruthy (String.toList_inj.1 hnil)
        exact h _ (List.mem_map_of_mem hc)
      | obj kvs =>
        show Returns (promptTurns U (kvs.map fun p => .str p.1) >>= fun turns => pure ("\n".intercalate turns)) ↔ _
        rw [returns_map, returns_promptTurns]
        refine iff_of_false (fun h => ?_) (by simp)
        cases kvs with
        | nil => rw [hm] at htruthy; cases htruthy
        | cons p kvs => exact h _ (List.mem_cons_self ..)
      | _ => exact iff_of_false (not_returns_error _) (by simp)
  · rename_i hfalsy
    exact iff_of_true (returns_ok _) fun h => absurd h hfalsy

/-! ## Reading options -/

theorem returns_mapFloat (options mapped : Obj) (key : String) :
    Returns (mapFloat U options key mapped) ↔ ∀ v, Dict.get? options key = some v → Returns (v.toFloat U) := by
  unfold mapFloat
  cases hv : Dict.get? options key with
  | none => exact iff_of_true (returns_ok _) nofun
  | some v =>
    dsimp only
    rw [returns_map]
    simp

theorem returns_mapNumPredict (options mapped : Obj) :
    Returns (mapNumPredict U options mapped) ↔ ∀ v, Dict.get? options "num_predict" = some v → Returns (v.toInt U) := by
  unfold mapNumPredict
  cases hv : Dict.get? options "num_predict" with
  | none => exact iff_of_true (returns_ok _) nofun
  | some v =>
    dsimp only
    rw [returns_map]
    simp

theorem returns_options (options : Obj) :
    Returns (ollamaOptionsToOpenai U (.obj options)) ↔ OptionsReadable U options := by
  refine Iff.trans (returns_bind (returns_mapFloat ..) fun _ => returns_bind (returns_mapFloat ..) fun _ =>
    returns_bind (returns_mapNumPredict ..) fun _ => returns_bind (returns_mapFloat ..) fun _ => returns_mapFloat ..) ?_
  constructor
  · rintro ⟨ht, hp, hn, hpp, hfp⟩
    refine ⟨?_, hn⟩
    simp only [floatOptions, List.forall_mem_cons]
    exact ⟨ht, hp, hpp, hfp, List.forall_mem_nil _⟩
  · rintro ⟨hfloats, hn⟩
    simp only [floatOptions, List.forall_mem_cons] at hfloats
    obtain ⟨ht, hp, hpp, hfp, -⟩ := hfloats
    exact ⟨ht, hp, hn, hpp, hfp⟩

/-- No option is read of a body without an object of them. -/
theorem optionsReadable_nil : OptionsReadable U [] where
  floats _ _ _ h := nomatch h
  numPredict _ h := nomatch h

theorem returns_ollamaBody (core body : Obj) : Returns (ollamaBody U core body) ↔ OptionsReadable U (optionsOf body) := by
  unfold ollamaBody optionsOf
  dsimp only
  cases Dict.get? body "options" with
  | none => exact iff_of_true (returns_ok _) optionsReadable_nil
  | some options =>
    dsimp only
    rw [returns_map]
    cases options with
    | obj options => exact returns_options options
    | _ => exact iff_of_true (returns_ok _) optionsReadable_nil

/-! ## Counting tokens -/

theorem returns_routedBudget {body : Obj} (hm : CountMember body "max_tokens")
    (hc : CountMember body "max_completion_tokens") : Returns (routedBudget U body) := by
  unfold routedBudget Json.orElse
  split
  · rename_i hgiven
    exact hm.toInt U hgiven
  · split
    · rename_i hgiven
      exact hc.toInt U hgiven
    · exact ⟨64, rfl⟩

/-- Counting tokens raises only on a budget that is no number. -/
theorem returns_featureTokens {body : Obj} (h : Returns (routedBudget U body)) (tok : Option Tokenizer) (cap : Int)
    (prompt : String) : Returns (featureTokens U tok cap prompt body) := by
  apply (returns_map _).2
  obtain ⟨out, hout⟩ := h
  unfold countTokens
  rw [hout, ok_bind]
  cases tok.bind (· prompt) with
  | some n => exact returns_ok _
  | none =>
    unfold estimateTokensHeuristic
    rw [hout]
    exact returns_ok _

theorem countMember_of_valid {body : Obj} {cap : Int} {key : String} (h : validateBudget U body cap key = none) :
    CountMember body key := by
  unfold validateBudget at h
  cases hv : Dict.get? body key with
  | none => exact .inr (.inl hv)
  | some v =>
    rw [hv, Option.getD_some] at h
    cases v with
    | null => exact .inr (.inr hv)
    | int n => exact .inl ⟨n, hv⟩
    | _ => cases h

/-- The budgets of a translated body are numbers. -/
theorem countMember_translated {core body body' : Obj} (h : TranslatedFrom U core body body')
    (hm : Dict.get? core "max_tokens" = none) (hc : Dict.get? core "max_completion_tokens" = none) :
    CountMember body' "max_tokens" ∧ CountMember body' "max_completion_tokens" := by
  constructor
  · have hmap := h.budget hm
    unfold MapsNumPredict at hmap
    split at hmap
    · obtain ⟨n, -, hn⟩ := hmap
      exact .inl ⟨n, hn⟩
    · exact .inr (.inl hmap)
  · exact .inr (.inl ((h.other _ (by decide) (by decide)).trans hc))

/-! ## Valid bodies -/

section Endpoint

variable {G : DioGateway K} {e : Endpoint} {body : Obj}

theorem returns_promptWithinCap (cap : Int) :
    Returns (promptWithinCap U body cap) ↔ (cap ≠ 0 → MessagesReadable body) := by
  unfold promptWithinCap
  split
  · rename_i hcap
    exact iff_of_true (returns_ok _) fun h => absurd hcap h
  · rename_i hcap
    rw [returns_map, returns_extractPrompt]
    exact ⟨fun h _ => h, fun h => h hcap⟩

theorem returns_openaiBody : Returns (e.openaiBody U body) ↔ (e.isOllama = true → OptionsReadable U (optionsOf body)) := by
  cases e with
  | chatCompletions | completions => exact iff_of_true (returns_ok _) nofun
  | ollamaChat | ollamaGenerate => exact (returns_ollamaBody _ _).trans ⟨fun h _ => h, fun h => h rfl⟩

/-- The tokens of a valid body handed on can be counted. -/
theorem returns_featureTokens_of_valid {cap : Int} (hvalid : validateOpenaiBody U (.obj body) e.path cap = none) {body' : Obj}
    (h : e.openaiBody U body = .ok body') (tok : Option Tokenizer) (featureCap : Int) (prompt : String) :
    Returns (featureTokens U tok featureCap prompt body') := by
  have hcounts : CountMember body' "max_tokens" ∧ CountMember body' "max_completion_tokens" := by
    have hbudgets := budgets_of_valid hvalid
    cases e with
    | chatCompletions | completions =>
      cases h
      exact ⟨countMember_of_valid (hbudgets _ (by decide)), countMember_of_valid (hbudgets _ (by decide))⟩
    | ollamaChat | ollamaGenerate => exact countMember_translated (ollamaBody_translated h) rfl rfl
  exact returns_featureTokens (returns_routedBudget hcounts.1 hcounts.2) tok featureCap prompt

end Endpoint

/-! ## Bodies that pass and bodies that raise -/

/-- A chat whose message is a text. -/
def textMessage : Obj := [("messages", .arr [.str "hi"])]

/-- A chat with a temperature that is no number. -/
def warmChat : Obj :=
  [("messages", .arr [.obj [("role", .str "user"), ("content", .str "hi")]]), ("options", .obj [("temperature", .str "warm")])]

end Dio.Gateway
