/-
The generated text in the answer of a chat (`_proxy_json` for `/v1/chat/completions` and `/api/chat`). The
reply of a TGI engine is put into the shape of a chat completion, and that of a chat route has it; the
completion an engine without a chat route falls back to is handed on as it is, so its text is in no message.
-/
import DioServe.Gateway.ReplyParity

namespace Dio.Gateway

open Data Py Effect Scheduler

variable {K : Type}

/-! ## The text of a reply -/

/-- An OpenAI chat completion with the text `s`. -/
def ChatText (data : Json) (s : String) : Prop :=
  ∃ kvs choice rest message, data = .obj kvs ∧ Dict.get? kvs "choices" = some (.arr (.obj choice :: rest)) ∧
    Dict.get? choice "message" = some (.obj message) ∧ TextMember message "content" s ∧
    UsageReadable kvs ["total_tokens", "completion_tokens"]

/-- An OpenAI text completion with the text `s`. -/
def CompletionText (data : Json) (s : String) : Prop :=
  ∃ kvs choice rest, data = .obj kvs ∧ Dict.get? kvs "choices" = some (.arr (.obj choice :: rest)) ∧
    Dict.get? choice "message" = none ∧ Dict.get? choice "text" = some (.str s) ∧
    UsageReadable kvs ["total_tokens", "completion_tokens"]

/-- A TGI reply with the text `s`: an object, with some other text beside it or not, or a list. -/
def TgiText (data : Json) (s : String) : Prop :=
  (∃ kvs other, data = .obj kvs ∧ Dict.get? kvs "generated_text" = some (.str s) ∧ TextMember kvs "text" other) ∨
    ∃ kvs rest, data = .arr (.obj kvs :: rest) ∧ Dict.get? kvs "generated_text" = some (.str s)

/-- The last reply of an exchange with `b`, to its first request or to the one it falls back to, has the
text `s`. -/
def TextOf (b : Backend) (n : Attempt) (data : Json) (s : String) : Prop :=
  if b.apiStyle = .tgiGenerate then TgiText data s
  else match n with
    | .first => ChatText data s
    | .again => CompletionText data s

/-- The last reply of the request's exchange with `b` is a success with the data. -/
def LastReply (G : DioGateway K) (t : List (Event (sig K))) (b : Backend) (n : Attempt) (data : Json) : Prop :=
  ∃ (a : PickArgs) (w : String) (d : RoutingDecision K) (request : HttpRequest) (up : UpstreamResponse),
    ⟨.pick a, .ok (w, d)⟩ ∈ t ∧ G.pool.get? w = some b ∧ ⟨.post n request, Outcome.returned up⟩ ∈ t ∧
      up.status < 400 ∧ up.json = some data

/-- The assistant message of an answer. -/
def messageOf (ollama : Bool) (answer : Json) : Json :=
  if ollama then memberOf "message" answer
  else match memberOf "choices" answer with
    | .arr (choice :: _) => memberOf "message" choice
    | _ => .null

/-- The answer has an assistant message, whose content is the text `s`. -/
def CarriesText (ollama : Bool) (answer : Json) (s : String) : Prop :=
  ∃ message, messageOf ollama answer = .obj message ∧ TextMember message "content" s

/-- An object has a text beside the generated one. -/
def OtherText : Json → Prop
  | .obj kvs => ((Dict.get? kvs "text").getD .null).truthy = true
  | _ => False

/-- When the text is kept: a TGI engine's unless it is empty and another one stands beside it, and the
chat route's; of a completion only the empty text, which the message made up for `/api/chat` has. -/
def KeepsText (ollama : Bool) (b : Backend) (n : Attempt) (data : Json) (s : String) : Prop :=
  if b.apiStyle = .tgiGenerate then ¬ (s = "" ∧ OtherText data) else n = .first ∨ ollama = true ∧ s = ""

/-- `/api/chat` or `/v1/chat/completions`. -/
def chatEndpoint (ollama : Bool) : Endpoint := if ollama then .ollamaChat else .chatCompletions

/-- The request is not for a stream. -/
def AsksOnce (ollama : Bool) (body : Obj) : Prop := ((Dict.get? body "stream").getD (.bool ollama)).truthy = false

/-! ## TGI -/

/-- The text read of a TGI reply. -/
theorem tgiParts_text {data : Json} {s : String} (h : TgiText data s) :
    ∃ shown details, tgiParts data = .ok (.str shown, details) ∧ (shown = s ↔ ¬ (s = "" ∧ OtherText data)) := by
  rcases h with ⟨kvs, other, rfl, htext, hother⟩ | ⟨kvs, rest, rfl, htext⟩
  · by_cases hs : s = ""
    · refine ⟨other, (Dict.get? kvs "details").getD .null, ?_, ?_⟩
      · have hempty : (Json.str "").orElse ((Dict.get? kvs "text").getD .null) = (Dict.get? kvs "text").getD .null := rfl
        simp only [tgiParts, htext, Option.getD_some, hs, hempty, hother.orElse]
      · rw [hs, OtherText, hother.truthy]
        simp
    · refine ⟨s, (Dict.get? kvs "details").getD .null, ?_, by simp [hs]⟩
      have htruthy : (Json.str s).truthy = true := by simpa [Json.truthy] using hs
      simp only [tgiParts, htext, Option.getD_some, Json.orElse_of_truthy _ htruthy]
  · refine ⟨s, (Dict.get? kvs "details").getD .null, ?_, by simp [OtherText]⟩
    have horElse : (Json.str s).orElse (.str "") = .str s := by
      by_cases hs : s = ""
      · rw [hs]; rfl
      · exact Json.orElse_of_truthy _ (by simpa [Json.truthy] using hs)
    simp only [tgiParts, Json.get_obj, htext, Option.getD_some, ok_bind, horElse]
    rfl

/-- A TGI reply has a count of tokens, a number or what counts as one. -/
theorem tgiCompletionTokens_text (shown : String) (details : Json) :
    ∃ count, tgiCompletionTokens (.str shown) details = .ok count ∧ ∀ U, ∃ n, count.toInt U = .ok n := by
  unfold tgiCompletionTokens
  cases hreported : reportedGenerated details with
  | none => exact ⟨.int _, rfl, fun _ => ⟨_, rfl⟩⟩
  | some count =>
    refine ⟨count, rfl, fun U => ?_⟩
    unfold reportedGenerated at hreported
    split at hreported
    · split at hreported
      · split at hreported
        · cases hreported; exact ⟨_, rfl⟩
        · cases hreported
      · cases hreported; exact ⟨_, rfl⟩
      · cases hreported
    · cases hreported

section Handler

variable [Field K] [LinearOrder K] [FloorRing K] {G : DioGateway K}

/-- The usage block of a normalised TGI reply can be read. -/
theorem reportedTokens_tgi (prompt : String) (text count model : Json) (promptN : Int) (hcount : ∃ n, count.toInt G.U = .ok n)
    (now now' : K) : ∃ n, reportedTokens G prompt (tgiGenerateToOpenaiChat text count model promptN now now') = .ok n := by
  obtain ⟨n, hn⟩ := hcount
  obtain ⟨kvs, usage, total, hdata, husage, htotal, hcompletion⟩ : ∃ kvs usage total,
      tgiGenerateToOpenaiChat text count model promptN now now' = .obj kvs ∧ Dict.get? kvs "usage" = some (.obj usage) ∧
        Dict.get? usage "total_tokens" = some (.int total) ∧ Dict.get? usage "completion_tokens" = some count :=
    ⟨_, _, _, rfl, rfl, rfl, rfl⟩
  rw [hdata]
  unfold reportedTokens
  simp only [husage, Option.getD_some, orElse_obj, ok_bind, Json.get_obj, htotal, hcompletion]
  split
  · exact ⟨some total, rfl⟩
  · split
    · exact ⟨some (max 1 (prompt.length / 4 : Int) + n), by rw [hn]; rfl⟩
    · exact ⟨none, rfl⟩

/-- The message of a normalised TGI reply. -/
def tgiMessage (shown : String) : Obj := [("role", .str "assistant"), ("content", .str shown)]

/-- A successful reply of a TGI engine to a chat is read as a chat completion. -/
theorem exec_readReply_tgi {b : Backend} (hstyle : b.apiStyle = .tgiGenerate) {up : UpstreamResponse} {data : Json}
    (hjson : up.json = some data) (hok : up.status < 400) {shown : String} {details : Json}
    (hparts : tgiParts data = .ok (.str shown, details)) {body : Obj} {prompt : String} {t : List (Event (sig K))}
    {read : Json} {reported : Option Int} (h : (readReply G b body .chat prompt up).Exec t (.ok (read, reported))) :
    ∃ kvs choice, read = .obj kvs ∧ Dict.get? kvs "choices" = some (.arr [.obj choice]) ∧
      Dict.get? choice "message" = some (.obj (tgiMessage shown)) := by
  obtain ⟨count, hcount, hn⟩ := tgiCompletionTokens_text shown details
  have hnormal : normalized G b body .chat prompt up.status data = (do
      let now ← time
      let now' ← time
      return tgiGenerateToOpenaiChat (.str shown) count (tgiModel b body) (promptTokens G.tokenizer prompt) now now') := by
    unfold normalized normalizeTgi
    rw [if_pos ⟨hok, hstyle, rfl⟩, hparts, py_ok_bind]
    dsimp only
    rw [hcount, py_ok_bind]
  obtain ⟨y, t₁, t₂, h1, h2, -⟩ := (Prog.exec_attempt_bind _ _ _ _).1 h
  unfold parseReply at h1
  rw [hjson, Option.elim_some, py_ok_bind, hnormal] at h1
  obtain ⟨(now : K), t₃, -, h3⟩ := (Prog.exec_call_bind (S := sig K) _ _ _ _).1 h1
  obtain ⟨(now' : K), t₄, -, h4⟩ := (Prog.exec_call_bind (S := sig K) _ _ _ _).1 h3
  obtain ⟨n, hreported⟩ := reportedTokens_tgi (G := G) prompt (.str shown) count (tgiModel b body)
    (promptTokens G.tokenizer prompt) (hn G.U) now now'
  have hread : y = .ok (tgiGenerateToOpenaiChat (.str shown) count (tgiModel b body) (promptTokens G.tokenizer prompt) now now', n) := by
    have h5 : (py (reportedTokens G prompt (tgiGenerateToOpenaiChat (.str shown) count (tgiModel b body)
        (promptTokens G.tokenizer prompt) now now')) >>= fun reported => Prog.ret (_, reported)).Exec t₄ y := h4
    rw [hreported] at h5
    exact h5.2
  rw [hread] at h2
  cases h2.2
  exact ⟨_, _, rfl, rfl, rfl⟩

/-! ## What the JSON proxy answers -/

/-- A chat completion with the message, or with none in its first choice. -/
def ChatObject (message : Option Obj) (answer : Json) : Prop :=
  ∃ kvs choice rest, answer = .obj kvs ∧ Dict.get? kvs "choices" = some (.arr (.obj choice :: rest)) ∧
    Dict.get? choice "message" = message.map .obj

theorem chatObject_erase {message : Option Obj} {kvs choice : Obj} {rest : List Json}
    (hchoices : Dict.get? kvs "choices" = some (.arr (.obj choice :: rest)))
    (hmessage : Dict.get? choice "message" = message.map .obj) : ChatObject message (.obj (Dict.erase kvs "dio")) :=
  ⟨_, choice, rest, rfl, by rw [Dict.get?_erase_ne (by decide) kvs, hchoices], hmessage⟩

/-- The message of the annotated answer: what the text is kept in, if it is. -/
theorem proxyJson_message {body : Obj} {tier : String} {allowed : Option (List String)} {t : List (Event (sig K))}
    {resp : JsonResponse K} (h : (proxyJson G body .chat tier allowed).Exec t (.ok resp)) {b : Backend} {n : Attempt}
    {data : Json} (hlast : LastReply G t b n data) {s : String} (htext : TextOf b n data s) :
    ∃ message, resp.status = 200 ∧ ChatObject message resp.content ∧ ∀ ollama,
      ((match message with
        | some message => TextMember message "content" s
        | none => ollama = true ∧ s = "") ↔ KeepsText ollama b n data s) := by
  obtain ⟨a, w, d, request, up, hpick, hb, hpost, hok, hjson⟩ := hlast
  unfold TextOf at htext
  unfold KeepsText
  by_cases hstyle : b.apiStyle = .tgiGenerate
  · rw [if_pos hstyle] at htext
    simp only [if_pos hstyle]
    obtain ⟨shown, details, hparts, hshown⟩ := tgiParts_text htext
    obtain ⟨prompt, tokens, e2eMs, read, reported, t', hread, rfl⟩ := proxyJson_settled h hpick hb hpost hok
    obtain ⟨kvs, choice, rfl, hchoices, hmessage⟩ := exec_readReply_tgi hstyle hjson hok hparts hread
    have hsettled : (annotate G w b d e2eMs tokens up.status (.obj kvs) reported).status = 200 ∧
        (annotate G w b d e2eMs tokens up.status (.obj kvs) reported).content = .obj (Dict.erase kvs "dio") :=
      annotate_obj hok kvs reported
    obtain ⟨hstatus, hcontent⟩ := hsettled
    refine ⟨some (tgiMessage shown), hstatus, hcontent ▸ chatObject_erase hchoices hmessage, fun _ => ?_⟩
    rw [← hshown]
    have hget : Dict.get? (tgiMessage shown) "content" = some (.str shown) := rfl
    constructor
    · rintro (hs | ⟨-, hs | hs⟩) <;> rw [hget] at hs <;> cases hs
      rfl
    · rintro rfl
      exact .inl hget
  · rw [if_neg hstyle] at htext
    simp only [if_neg hstyle]
    cases n with
    | first =>
      obtain ⟨kvs, choice, rest, message, rfl, hchoices, hmessage, hcontent, husage⟩ := htext
      obtain ⟨hstatus, hc⟩ := proxyJson_answer h hpick hb hstyle hpost hok hjson (reportedTokens_readable husage)
      refine ⟨some message, hstatus, hc ▸ chatObject_erase hchoices hmessage, fun _ => ?_⟩
      exact iff_of_true hcontent (.inl rfl)
    | again =>
      obtain ⟨kvs, choice, rest, rfl, hchoices, hmessage, -, husage⟩ := htext
      obtain ⟨hstatus, hc⟩ := proxyJson_answer h hpick hb hstyle hpost hok hjson (reportedTokens_readable husage)
      refine ⟨none, hstatus, hc ▸ chatObject_erase hchoices hmessage, fun _ => ?_⟩
      simp

/-! ## What the endpoints answer -/

/-- A request for one answer is answered without any call, or by the JSON proxy. -/
theorem openaiEndpoint_reply {path : Path} {body : Obj} {t : List (Event (sig K))} {reply : Reply K}
    (h : (openaiEndpoint G path body).Exec t (.ok reply)) (hstream : AsksOnce false body) :
    t = [] ∨ ∃ allowed resp, (proxyJson G body path "small" allowed).Exec t (.ok resp) ∧ reply = .json resp := by
  have hnone : ((Dict.get? body "stream").getD .null).truthy = false := by
    unfold AsksOnce at hstream
    cases hs : Dict.get? body "stream" with
    | none => rfl
    | some v => rw [hs] at hstream; exact hstream
  rcases openaiEndpoint_cases G path body with ⟨p, hp, heq⟩ | ⟨allowed, -, -, -, -, heq⟩
  · rw [heq] at h
    exact .inl (Silent.eq_nil (Prog.Only.bind hp fun _ => Prog.Only.ret _) h)
  · rw [heq, if_neg (by rw [hnone]; exact Bool.false_ne_true)] at h
    obtain ⟨resp, t₁, t₂, h1, ⟨rfl, hr⟩, rfl⟩ := Prog.exec_bind_ok h
    cases hr
    exact .inr ⟨allowed, resp, by rw [List.append_nil]; exact h1, rfl⟩

omit [Field K] [LinearOrder K] [FloorRing K] in
/-- The message of a translated reply is the one its first choice has, else an empty one. -/
theorem ollamaReply_message {message : Option Obj} {data answer modelName : Json} (hdata : ChatObject message data)
    (h : ollamaReply firstMessage modelName data = .ok answer) :
    memberOf "message" answer = .obj (message.getD (tgiMessage "")) := by
  obtain ⟨kvs, choice, rest, rfl, hchoices, hmessage⟩ := hdata
  have hread : firstMessage ((Json.arr (.obj choice :: rest)).orElse (.arr [])) =
      .ok ("message", .obj (message.getD (tgiMessage ""))) := by
    show firstMessage (.arr (.obj choice :: rest)) = _
    cases message with
    | none => simp [firstMessage, Json.truthy, Json.head, hasMember, Dict.contains, hmessage, ok_bind, tgiMessage]; rfl
    | some message => simp [firstMessage, Json.truthy, Json.head, hasMember, Dict.contains, item, hmessage, ok_bind]
  unfold ollamaReply at h
  rw [Json.get_obj, hchoices, Option.getD_some, ok_bind] at h
  dsimp only at h
  rw [hread, ok_bind] at h
  obtain ⟨usage, -, h⟩ := bind_eq_ok.1 h
  obtain ⟨reason, -, h⟩ := bind_eq_ok.1 h
  obtain ⟨promptEval, -, h⟩ := bind_eq_ok.1 h
  obtain ⟨eval, -, h⟩ := bind_eq_ok.1 h
  cases h
  rfl

omit [Field K] [LinearOrder K] [FloorRing K] in
/-- What a client reads of an answer with the message, or with none. -/
theorem carriesText_openai {message : Option Obj} {answer : Json} (h : ChatObject message answer) (s : String) :
    CarriesText false answer s ↔ match message with
      | some message => TextMember message "content" s
      | none => False := by
  obtain ⟨kvs, choice, rest, rfl, hchoices, hmessage⟩ := h
  have hread : messageOf false (.obj kvs) = (message.map Json.obj).getD .null := by
    simp [messageOf, memberOf, hchoices, hmessage]
  unfold CarriesText
  rw [hread]
  cases message with
  | none => simp
  | some message => simp

end Handler

/-! ## A completion in place of a chat -/

/-- The backend of the gateway. -/
def soleBackend : Backend := { id := "gpu0", baseUrl := "http://a" }

/-- The engine answers its last request with `data`: the first, or after a 404 the one it falls back to. -/
def lastAnswer (n : Attempt) (data : Json) : (c : Call ℚ) → c.Res
  | .post .first _ => .returned (if n = .first then ⟨200, some data, ""⟩ else ⟨404, none, ""⟩)
  | .post .again _ => .returned ⟨200, some data, ""⟩
  | c => Answers.env {} c

/-- The call that sends the request, or the one it falls back to. -/
def Call.postsAt (n : Attempt) : Call K → Bool
  | .post m _ => m = n
  | _ => false

/-- The content of the message of an answer. -/
def answered (ollama : Bool) : Except Exn (Reply ℚ) → Option Json
  | .ok (.json resp) => some (memberOf "content" (messageOf ollama resp.content))
  | _ => none

/-- A chat is answered with a message of the content `v`, after its last request was sent. -/
def answersWith (ollama : Bool) (n : Attempt) (v : Json) (t : List (Event (sig ℚ))) (x : Except Exn (Reply ℚ)) : Bool :=
  ((answered ollama x).any fun v' => v'.beq v) && (t.any fun ev => !Call.pickless ev.op) && t.any fun ev => Call.postsAt n ev.op

theorem exists_answer (ollama : Bool) (n : Attempt) (data v : Json)
    (h : answersWith ollama n v (Prog.run (lastAnswer n data) ((chatEndpoint ollama).handle oneBackend (sayHi false))).1
      (Prog.run (lastAnswer n data) ((chatEndpoint ollama).handle oneBackend (sayHi false))).2 = true) :
    ∃ t resp, ((chatEndpoint ollama).handle oneBackend (sayHi false)).Exec t (.ok (.json resp)) ∧
      LastReply oneBackend t soleBackend n data ∧ memberOf "content" (messageOf ollama resp.content) = v := by
  obtain ⟨t, x, hexec, hall, henv⟩ := Prog.exists_exec (lastAnswer n data) (fun t x => answersWith ollama n v t x = true) h
  rw [answersWith, Bool.and_eq_true, Bool.and_eq_true] at hall
  obtain ⟨⟨hanswered, hpicks⟩, hposts⟩ := hall
  obtain ⟨a, hpick⟩ : ∃ a, ⟨.pick a, .ok ("gpu0", decisionOn)⟩ ∈ t := by
    obtain ⟨op, hop, hev⟩ := Prog.exists_answered (fun op => !Call.pickless op) henv hpicks
    cases op <;> cases hop
    exact ⟨_, hev⟩
  obtain ⟨request, hpost⟩ : ∃ request, ⟨.post n request, Outcome.returned ⟨200, some data, ""⟩⟩ ∈ t := by
    obtain ⟨op, hop, hev⟩ := Prog.exists_answered (Call.postsAt n) henv hposts
    unfold Call.postsAt at hop
    split at hop
    · cases of_decide_eq_true hop
      cases n <;> exact ⟨_, hev⟩
    · cases hop
  unfold answered at hanswered
  split at hanswered
  · rename_i resp
    refine ⟨t, resp, hexec, ⟨a, "gpu0", decisionOn, request, _, hpick, rfl, hpost,
      Nat.lt_of_lt_of_le (by decide : 200 < 400) (Nat.le_refl _), rfl⟩, ?_⟩
    exact Json.eq_of_beq hanswered
  · cases hanswered

/-- The answer of a chat route. -/
def helloMessage : Json := .obj [("choices", .arr [.obj [("message", .obj [("content", .str "hello")])]])]

/-- The answer of a completions route. -/
def helloText : Json := .obj [("choices", .arr [.obj [("text", .str "hello")]])]

end Dio.Gateway
