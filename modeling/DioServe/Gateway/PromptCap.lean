/-
The prompt cap: how much text reaches an engine. The cap is checked on the text extracted from the
client's body, which is that of `messages` when there are any; a completion is forwarded its
`prompt` all the same.
-/
import DioServe.Gateway.Budget

namespace Dio.Gateway

open Data Py Effect Scheduler

variable {K : Type}

/-! ## The text of a payload -/

/-- The text of one part of a multimodal content. -/
def partText : Json → String
  | .obj part =>
    if isStr "text" ((Dict.get? part "type").getD .null) then
      match (Dict.get? part "text").getD (.str "") with
      | .str s => s
      | _ => ""
    else ""
  | _ => ""

/-- The text of a multimodal content. -/
def partsText : List Json → String
  | [] => ""
  | p :: ps => partText p ++ partsText ps

/-- The text of a content. -/
def textContent : Json → String
  | .str s => s
  | .arr ps => partsText ps
  | _ => ""

/-- The text of one message. -/
def messageText : Json → String
  | .obj m => textContent ((Dict.get? m "content").getD .null)
  | _ => ""

/-- The concatenated text of messages. -/
def messagesText : List Json → String
  | [] => ""
  | m :: ms => messageText m ++ messagesText ms

/-- The text a payload asks an engine to read on a route. -/
def askedText : Path → Obj → String
  | .chat, payload =>
    match Dict.get? payload "messages" with
    | some (.arr ms) => messagesText ms
    | _ => ""
  | .completions, payload =>
    match Dict.get? payload "prompt" with
    | some (.str s) => s
    | _ => ""

theorem askedText_congr {path : Path} {p p' : Obj} (h : Dict.get? p path.member = Dict.get? p' path.member) :
    askedText path p = askedText path p' := by
  cases path <;> simp only [askedText, Path.member] at h ⊢ <;> rw [h]

/-! ## The extracted text is at least as long -/

theorem length_intercalate_cons (sep t : String) (ts : List String) :
    t.length + (sep.intercalate ts).length ≤ (sep.intercalate (t :: ts)).length := by
  cases ts with
  | nil => simp
  | cons u us =>
    rw [String.intercalate_cons_cons, String.length_append, String.length_append]
    omega

/-- A part adds its text, or nothing when it has none. -/
theorem partTexts_cons {p : Json} {ps : List Json} {texts : List String} (h : partTexts (p :: ps) = .ok texts) :
    ∃ rest, partTexts ps = .ok rest ∧ (texts = partText p :: rest ∨ texts = rest ∧ partText p = "") := by
  cases p with
  | obj part =>
    unfold partTexts at h
    simp only [partText]
    split at h
    · rename_i htype
      rw [if_pos htype]
      generalize (Dict.get? part "text").getD (.str "") = text at h ⊢
      cases text with
      | str s =>
        obtain ⟨rest, hrest, h⟩ := bind_eq_ok.1 h
        cases h
        exact ⟨rest, hrest, .inl rfl⟩
      | _ => cases h
    · rename_i htype
      rw [if_neg htype]
      exact ⟨texts, h, .inr ⟨rfl, rfl⟩⟩
  | _ =>
    unfold partTexts at h
    exact ⟨texts, h, .inr ⟨rfl, rfl⟩⟩

theorem length_partsText_le (ps : List Json) : ∀ {texts : List String}, partTexts ps = .ok texts →
    (partsText ps).length ≤ (" ".intercalate texts).length := by
  induction ps with
  | nil => intro _ _; exact Nat.zero_le _
  | cons p ps ih =>
    intro texts h
    obtain ⟨rest, hrest, rfl | ⟨rfl, hp⟩⟩ := partTexts_cons h
    · have hcons := length_intercalate_cons " " (partText p) rest
      have hrec := ih hrest
      rw [partsText, String.length_append]
      omega
    · rw [partsText, hp, String.empty_append]
      exact ih hrest

theorem length_textContent_le {U : Unicode} {content : Json} {text : String} (h : contentText U content = .ok text) :
    (textContent content).length ≤ text.length := by
  cases content with
  | str s => cases h; exact Nat.le_refl _
  | arr ps =>
    obtain ⟨texts, ht, h⟩ := bind_eq_ok.1 h
    cases h
    exact length_partsText_le ps ht
  | _ => exact Nat.zero_le _

theorem length_messagesText_le {U : Unicode} (ms : List Json) : ∀ {turns : List String}, promptTurns U ms = .ok turns →
    (messagesText ms).length ≤ ("\n".intercalate turns).length := by
  induction ms with
  | nil => intro _ _; exact Nat.zero_le _
  | cons m ms ih =>
    intro turns h
    obtain ⟨content, hcontent, h⟩ := bind_eq_ok.1 h
    obtain ⟨text, htext, h⟩ := bind_eq_ok.1 h
    obtain ⟨role, -, h⟩ := bind_eq_ok.1 h
    obtain ⟨rest, hrest, h⟩ := bind_eq_ok.1 h
    cases h
    have hcons := length_intercalate_cons "\n" (str U role ++ ": " ++ text) rest
    have hmessage : (messageText m).length ≤ text.length := by
      cases m with
      | obj kvs =>
        have hle := length_textContent_le htext
        rw [Json.getD_obj, Except.ok.injEq] at hcontent
        subst hcontent
        simp only [messageText]
        cases hc : Dict.get? kvs "content" with
        | none => exact Nat.zero_le _
        | some c => rw [hc] at hle; exact hle
      | _ => exact Nat.zero_le _
    have hrec := ih hrest
    rw [String.length_append, String.length_append] at hcons
    rw [messagesText, String.length_append]
    omega

/-! ## What is extracted -/

/-- The text of a conversation. -/
theorem extractPrompt_messages {U : Unicode} {body : Obj} {m : Json} {ms : List Json}
    (h : Dict.get? body "messages" = some (.arr (m :: ms))) {prompt : String} (hp : extractPrompt U body = .ok prompt) :
    (messagesText (m :: ms)).length ≤ prompt.length := by
  have hextract : extractPrompt U body = promptTurns U (m :: ms) >>= fun turns => .ok ("\n".intercalate turns) := by
    simp only [extractPrompt, h]; rfl
  rw [hextract] at hp
  obtain ⟨turns, ht, hp⟩ := bind_eq_ok.1 hp
  cases hp
  exact length_messagesText_le _ ht

/-- The text of a prompt, where there are no messages. -/
theorem extractPrompt_prompt {U : Unicode} {body : Obj}
    (hm : ((Dict.get? body "messages").getD .null).truthy = false) {s : String}
    (h : Dict.get? body "prompt" = some (.str s)) : extractPrompt U body = .ok s := by
  unfold extractPrompt
  dsimp only
  rw [hm, if_neg Bool.false_ne_true, h, Option.getD_some]
  by_cases hs : s = ""
  · subst hs; rfl
  · rw [Json.orElse_of_truthy _ (by simp [Json.truthy, hs])]; rfl

/-- The extracted text depends on the messages alone, where there are any. -/
theorem extractPrompt_congr {U : Unicode} {body body' : Obj} (h : Dict.get? body' "messages" = Dict.get? body "messages")
    (hm : ((Dict.get? body "messages").getD .null).truthy = true) : extractPrompt U body' = extractPrompt U body := by
  unfold extractPrompt
  dsimp only
  rw [h, hm]
  rfl

theorem promptWithinCap_none {U : Unicode} {body : Obj} {c : Int} (hc : 0 < c) (h : promptWithinCap U body c = .ok none) :
    ∃ prompt, extractPrompt U body = .ok prompt ∧ (prompt.length : Int) ≤ c := by
  unfold promptWithinCap at h
  rw [if_neg (by omega)] at h
  obtain ⟨prompt, hp, h⟩ := bind_eq_ok.1 h
  refine ⟨prompt, hp, ?_⟩
  by_contra hlt
  simp only [hlt, if_false] at h
  cases h

/-! ## Requests -/

/-- The engine route a call is meant for. -/
def Call.route (e : Endpoint) : Call K → Path
  | .post .again _ => .completions
  | _ => e.path

/-- When the text a call forwards is within the cap: except for a completion whose prompt is longer and
whose messages were measured in its place. -/
def PromptSafe (c : Int) (e : Endpoint) (b : Backend) (body : Obj) (call : Call K) : Prop :=
  e.path = .completions → ¬ (b.apiStyle = .tgiGenerate ∧ ∃ request, call = .post .first request) →
    ((Dict.get? body "messages").getD .null).truthy = true → ∀ s, Dict.get? body "prompt" = some (.str s) →
      (s.length : Int) ≤ c

/-- A body handed on has the client's messages, except that a translated completion has none. -/
theorem messages_handedOn {U : Unicode} {e : Endpoint} {body body' : Obj} {cap : Int}
    (hvalid : validateOpenaiBody U (.obj body) e.path cap = none) (h : e.openaiBody U body = .ok body') :
    Dict.get? body' "messages" = if e = .ollamaGenerate then none else Dict.get? body "messages" := by
  cases e with
  | chatCompletions | completions => cases h; rfl
  | ollamaChat =>
    obtain ⟨m, ms, hm⟩ := messages_of_valid hvalid
    rw [(ollamaBody_translated h).other "messages" (by decide) (by decide)]
    simp [Dict.get?_cons, hm, Json.orElse, Json.truthy]
  | ollamaGenerate =>
    rw [(ollamaBody_translated h).other "messages" (by decide) (by decide)]
    rfl

/-- A chat's messages are handed on. -/
theorem Routed.messages {G : DioGateway K} {e : Endpoint} {body body' : Obj} {allowed : Option (List String)}
    (h : Routed G e body body' allowed) (hpath : e.path = .chat) :
    ∃ m ms, Dict.get? body "messages" = some (.arr (m :: ms)) ∧ Dict.get? body' "messages" = some (.arr (m :: ms)) := by
  have hchat := h.valid
  rw [hpath] at hchat
  obtain ⟨m, ms, hm⟩ := messages_of_valid hchat
  have hkept := messages_handedOn h.valid h.translated
  rw [if_neg (by rintro rfl; cases hpath), hm] at hkept
  exact ⟨m, ms, hm, hkept⟩

/-- A body handed on asks for the text of the client's. -/
theorem Routed.askedText {G : DioGateway K} {e : Endpoint} {body body' : Obj} {allowed : Option (List String)}
    (h : Routed G e body body' allowed) : askedText e.path body' = askedText e.path body := by
  cases hpath : e.path with
  | chat =>
    obtain ⟨m, ms, hm, hm'⟩ := h.messages hpath
    exact askedText_congr (hm'.trans hm.symm)
  | completions =>
    obtain ⟨hvalid, -, -, -, htrans⟩ := h
    cases e with
    | completions => cases htrans; rfl
    | ollamaGenerate =>
      obtain ⟨v, hv, -⟩ := prompt_of_valid hvalid
      have hget : Dict.get? body' "prompt" = some (v.orElse (.str "")) := by
        rw [(ollamaBody_translated htrans).other "prompt" (by decide) (by decide)]
        simp [Dict.get?_cons, hv]
      simp only [Gateway.askedText, hget, hv]
      by_cases ht : v.truthy = true
      · rw [Json.orElse_of_truthy _ ht]
      · rw [Json.orElse_of_falsy _ (by simpa using ht)]
        cases v with
        | str s => simp [Json.truthy] at ht; simp [ht]
        | _ => rfl
    | chatCompletions | ollamaChat => cases hpath

/-- The text of the client's body is within the cap, unless its messages hid its prompt. -/
theorem Routed.askedText_le_iff {G : DioGateway K} (hc : 0 < G.promptCharsCap) {e : Endpoint} {body body' : Obj}
    {allowed : Option (List String)} (h : Routed G e body body' allowed) :
    ((Gateway.askedText e.path body).length : Int) ≤ G.promptCharsCap ↔
      (e.path = .completions → ((Dict.get? body "messages").getD .null).truthy = true →
        ∀ s, Dict.get? body "prompt" = some (.str s) → (s.length : Int) ≤ G.promptCharsCap) := by
  obtain ⟨prompt, hp, hle⟩ := promptWithinCap_none hc h.withinCap
  cases hpath : e.path with
  | chat =>
    obtain ⟨m, ms, hm, -⟩ := h.messages hpath
    have hlen := extractPrompt_messages hm hp
    simp only [Gateway.askedText, hm, reduceCtorEq, false_implies, iff_true]
    omega
  | completions =>
    cases hv : Dict.get? body "prompt" with
    | none => simpa [Gateway.askedText, hv] using hc.le
    | some v =>
      cases v with
      | str s =>
        simp only [Gateway.askedText, hv, Option.some.injEq, Json.str.injEq, forall_eq', true_implies]
        constructor
        · intro h _; exact h
        · intro hs
          by_cases hm : ((Dict.get? body "messages").getD .null).truthy = true
          · exact hs hm
          · rw [extractPrompt_prompt (by simpa using hm) hv] at hp
            cases hp; exact hle
      | _ => simpa [Gateway.askedText, hv] using hc.le

/-- The prompt a chat falls back to is the text that the cap was checked on. -/
theorem Routed.fallback_le {G : DioGateway K} (hc : 0 < G.promptCharsCap) {e : Endpoint} {body body' : Obj}
    {allowed : Option (List String)} (h : Routed G e body body' allowed) (hpath : e.path = .chat) {prompt : String}
    (hprompt : extractPrompt G.U body' = .ok prompt) : (prompt.length : Int) ≤ G.promptCharsCap := by
  obtain ⟨m, ms, hm, hm'⟩ := h.messages hpath
  obtain ⟨extracted, hextract, hle⟩ := promptWithinCap_none hc h.withinCap
  rw [extractPrompt_congr (hm'.trans hm.symm) (by simp [hm, Json.truthy])] at hprompt
  obtain rfl : prompt = extracted := Except.ok.inj (hprompt.symm.trans hextract)
  exact hle

/-- A payload translated for TGI has neither messages nor a prompt. -/
theorem askedText_tgi {U : Unicode} {body payload : Obj} (h : openaiChatToTgiGenerate U body = .ok payload) (path : Path) :
    askedText path payload = "" := by
  obtain ⟨inputs, params, rfl⟩ := tgiGenerate_shape h
  cases path <;> rfl

/-- What a call forwards is within the cap exactly when the client's prompt is safe for it. -/
theorem upstream_askedText_iff {G : DioGateway K} (hc : 0 < G.promptCharsCap) {e : Endpoint} {b : Backend}
    {body body' : Obj} {allowed : Option (List String)} (h : Routed G e body body' allowed) {call : Call K}
    (hup : Upstream G e b body' call) {request : HttpRequest} (hf : call.forwarded = some request) :
    ((askedText (call.route e) request.payload).length : Int) ≤ G.promptCharsCap ↔
      PromptSafe G.promptCharsCap e b body call := by
  have hkept : e.path.member ≠ "model" ∧ e.path.member ≠ "stream" ∧ e.path.member ≠ "stream_options" := by
    cases e.path <;> decide
  have hbody := h.askedText_le_iff hc
  rw [← h.askedText] at hbody
  -- the streams pass the member on as the endpoint left it
  have hstream : ∀ payload n request, Dict.get? payload e.path.member = Dict.get? body' e.path.member →
      (((askedText e.path payload).length : Int) ≤ G.promptCharsCap ↔
        PromptSafe G.promptCharsCap e b body (.buildRequest n request : Call K)) := by
    intro payload n request hget
    rw [askedText_congr hget, hbody]
    simp [PromptSafe]
  cases hup with
  | forwarded hr =>
    obtain ⟨payload, hp, rfl⟩ := Backend.forward_eq_ok.1 hr
    cases hf
    show ((askedText e.path payload).length : Int) ≤ _ ↔ _
    unfold Backend.forwardPayload at hp
    by_cases htgi : b.apiStyle = .tgiGenerate
    · rw [if_pos htgi] at hp
      rw [askedText_tgi hp]
      refine iff_of_true (by simpa using hc.le) fun _ hno => absurd ⟨htgi, _, rfl⟩ hno
    · rw [if_neg htgi] at hp
      cases hp
      rw [askedText_congr (get?_setModel b body' hkept.1), hbody]
      simp [PromptSafe, htgi]
  | @fellBack _ prompt hpath hprompt hr =>
    obtain ⟨payload, hp, rfl⟩ := Backend.forward_eq_ok.1 hr
    cases hf
    refine iff_of_true ?_ fun hcompl => by rw [hpath] at hcompl; cases hcompl
    show ((askedText .completions payload).length : Int) ≤ _
    unfold Backend.forwardPayload at hp
    by_cases htgi : b.apiStyle = .tgiGenerate
    · rw [if_pos htgi] at hp
      rw [askedText_tgi hp]
      simpa using hc.le
    · rw [if_neg htgi] at hp
      cases hp
      have hget : Dict.get? (b.setModel (fallbackBody body' prompt)) "prompt" = some (.str prompt) :=
        get?_setModel b _ (by decide)
      simp only [askedText, hget]
      exact h.fallback_le hc hpath hprompt
  | relayed he =>
    cases hf
    exact hstream _ _ _ (get?_streamPayload b body' hkept.1 hkept.2.1)
  | translated he =>
    cases hf
    exact hstream _ _ _ (get?_ollamaStreamPayload b body' hkept.1 hkept.2.1 hkept.2.2)
  | retried he =>
    cases hf
    exact hstream _ _ _ (get?_retriedPayload b body' hkept.1 hkept.2.1 hkept.2.2)

section Field

variable [Field K] [LinearOrder K] [FloorRing K]

end Field

/-! ## Examples -/

/-- A gateway with a cap of five characters. -/
def shortPrompts : DioGateway ℚ := { oneBackend with promptCharsCap := 5 }

/-- A completion whose message is one character long and whose prompt is longer. -/
def hiddenPrompt : Obj :=
  [("messages", .arr [.obj [("role", .str ""), ("content", .str "a")]]), ("prompt", .str "hello, world")]

end Dio.Gateway
