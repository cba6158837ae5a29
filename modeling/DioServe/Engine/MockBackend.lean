/-
`MockBackendServer` of `backends.py`: the in-process engine of tests and demos. It echoes the end of what
it is asked, word by word, as one JSON reply or as a stream of events. The sleeps are left out.
-/
import DioServe.Gateway.Endpoints
import DioServe.Gateway.Reply
import DioServe.Py.Dumps

namespace Dio.Engine

open Data Py Gateway

/-! ## The server -/

/-- `MockBackendServer`: the interpreter's tables and its name. -/
structure MockBackendServer where
  U : Unicode
  name : String

/-- The readings of the clock of one request: `int(time.time()*1000)` and `int(time.time())`. -/
structure Stamp where
  ms : Int
  s : Int

/-- A generator of texts: what it has yielded and how it ends. -/
abbrev TextGen := ExceptT PyErr (StateM (List String))

/-- What a route returns: the text of a `JSONResponse`, or the generator of a `StreamingResponse`. -/
inductive MockReply
  | json (text : String)
  | stream (gen : TextGen Unit)

/-- `xs[:n]`. -/
def upTo {α : Type} (xs : List α) (n : Int) : List α := if 0 ≤ n then xs.take n.toNat else xs.take (xs.length + n).toNat

/-- `text.split(" ")`. -/
def split (text : String) : List (List Char) := text.toList.splitOn ' '

/-- `" ".join(words)`. -/
def joinWords (words : List (List Char)) : String := String.ofList ([' '].intercalate words)

/-- The words with the space that follows all but the last. -/
def pieces : List (List Char) → List String
  | [] => []
  | [w] => [String.ofList w]
  | w :: w' :: ws => String.ofList (w ++ [' ']) :: pieces (w' :: ws)

/-- `messages[-1]`. -/
def lastItem : Json → Except PyErr Json
  | .arr xs => xs.getLast?.elim (.error .keyError) .ok
  | .str s => s.toList.getLast?.elim (.error .keyError) fun c => .ok (.str (String.ofList [c]))
  | .obj _ => .error .keyError
  | _ => .error .typeError

/-- `body.get("model") or "mock-model"`. -/
def modelName (body : Obj) : Json := ((Dict.get? body "model").getD .null).orElse (.str "mock-model")

/-- `int(body.get("max_tokens") or 64)`. -/
def maxTokens (U : Unicode) (body : Obj) : Except PyErr Int :=
  (((Dict.get? body "max_tokens").getD .null).orElse (.int 64)).toInt U

/-- `max(1, len(str(content)) // 4)`. -/
def tokensIn (U : Unicode) (content : Json) : Int := max 1 ((str U content).length / 4 : Int)

/-- `yield f"data: ...\n\n"`. -/
def yieldData (data : String) : TextGen Unit := modify (· ++ ["data: " ++ data ++ "\n\n"])

def yieldEvent (event : Json) : TextGen Unit := do
  let data ← (dumps .default event : Except PyErr String)
  yieldData data

/-- Yield the events in order. -/
def yieldEvents : List Json → TextGen Unit
  | [] => return ()
  | e :: es => do
    yieldEvent e
    yieldEvents es

def usage (promptTokens completionTokens : Int) : Json :=
  .obj [("prompt_tokens", .int promptTokens), ("completion_tokens", .int completionTokens),
    ("total_tokens", .int (promptTokens + completionTokens))]

/-! ## One generation -/

/-- What a route generates: its text, the budget and the accounting of the prompt. -/
structure Generation where
  text : String
  maxTokens : Int
  promptTokens : Int

namespace Generation

variable (g : Generation)

/-- `len(words) > max_tokens`. -/
def truncated : Bool := (split g.text).length > g.maxTokens

def finish : String := if g.truncated then "length" else "stop"

/-- The text of a reply that is not streamed. -/
def replyText : String := if g.truncated then joinWords (upTo (split g.text) g.maxTokens) else g.text

/-- `min(max_tokens, len(words))`. -/
def generated : Int := min g.maxTokens (split g.text).length

/-- The words of a stream. -/
def streamWords : List (List Char) := upTo (split g.text) g.maxTokens

end Generation

/-- What differs between the two routes: the names, and where a choice holds the text. -/
structure MockRoute where
  idHead : String
  object : String
  chunkObject : String
  choice : String → String → Json
  /-- The chunks before the first word. -/
  opening : List Json
  piece : String → Json
  closing : String → Json

section Route

variable (m : MockRoute) (now : Stamp) (model : Json) (g : Generation)

/-- A reply or a chunk of a stream. -/
def envelope (object : String) (rest : Obj) : Json :=
  .obj ([("id", .str (m.idHead ++ toString now.ms)), ("object", .str object), ("created", .int now.s), ("model", model)] ++
    rest)

/-- The JSON of a reply that is not streamed. -/
def replyJson : Json :=
  envelope m now model m.object [("choices", .arr [m.choice g.replyText g.finish]), ("usage", usage g.promptTokens g.generated)]

/-- A chunk with a choice. -/
def chunk (choice : Json) : Json := envelope m now model m.chunkObject [("choices", .arr [choice])]

/-- The usage chunk. -/
def usageChunk : Json :=
  envelope m now model m.chunkObject [("choices", .arr []), ("usage", usage g.promptTokens g.streamWords.length)]

/-- The chunks of a stream before its usage chunk. -/
def chunks : List Json :=
  (m.opening ++ (pieces g.streamWords).map m.piece ++ [m.closing g.finish]).map (chunk m now model)

/-- The generator of a stream. -/
def eventStream (streamOptions : Json) : TextGen Unit := do
  yieldEvents (chunks m now model g)
  let includeUsage ← ((streamOptions.orElse (.obj [])).get "include_usage" : Except PyErr Json)
  if includeUsage.truthy then yieldEvent (usageChunk m now model g)
  yieldData "[DONE]"

/-- A route, once it knows what it generates. -/
def respond (body : Obj) : Except PyErr MockReply :=
  if ((Dict.get? body "stream").getD .null).truthy then
    .ok (.stream (eventStream m now (modelName body) g ((Dict.get? body "stream_options").getD .null)))
  else do return .json (← dumps .compact (replyJson m now (modelName body) g))

end Route

/-! ## The routes -/

/-- The chunks and replies of `/v1/chat/completions`. -/
def chatRoute : MockRoute where
  idHead := "chatcmpl-mock-"
  object := "chat.completion"
  chunkObject := "chat.completion.chunk"
  choice text finish := .obj [("index", .int 0),
    ("message", .obj [("role", .str "assistant"), ("content", .str text)]), ("finish_reason", .str finish)]
  opening := [.obj [("index", .int 0), ("delta", .obj [("role", .str "assistant"), ("content", .str "")]),
    ("finish_reason", .null)]]
  piece text := .obj [("index", .int 0), ("delta", .obj [("content", .str text)]), ("finish_reason", .null)]
  closing finish := .obj [("index", .int 0), ("delta", .obj []), ("finish_reason", .str finish)]

/-- The chunks and replies of `/v1/completions`. -/
def completionsRoute : MockRoute where
  idHead := "cmpl-mock-"
  object := "text_completion"
  chunkObject := "text_completion"
  choice text finish := .obj [("text", .str text), ("index", .int 0), ("finish_reason", .str finish)]
  opening := []
  piece text := .obj [("text", .str text), ("index", .int 0), ("finish_reason", .null)]
  closing finish := .obj [("text", .str ""), ("index", .int 0), ("finish_reason", .str finish)]

namespace MockBackendServer

variable (E : MockBackendServer)

/-- `messages[-1]["content"] if messages else ""`. -/
def chatContent (body : Obj) : Except PyErr Json :=
  let messages := ((Dict.get? body "messages").getD .null).orElse (.arr [])
  if messages.truthy then lastItem messages >>= item "content" else .ok (.str "")

/-- What `chat` generates. -/
def chatGeneration (body : Obj) : Except PyErr Generation := do
  let content ← chatContent body
  let budget ← maxTokens E.U body
  return ⟨"[" ++ E.name ++ "] echo: " ++ String.ofList ((str E.U content).toList.take 80), budget, tokensIn E.U content⟩

/-- What `completions` generates. -/
def completionsGeneration (body : Obj) : Except PyErr Generation := do
  let prompt := ((Dict.get? body "prompt").getD .null).orElse (.str "")
  let budget ← maxTokens E.U body
  return ⟨"[" ++ E.name ++ "] " ++ String.ofList ((str E.U prompt).toList.take 40), budget, tokensIn E.U prompt⟩

/-- `POST /v1/chat/completions`. -/
def chat (now : Stamp) (body : Obj) : Except PyErr MockReply := do
  respond chatRoute now (← E.chatGeneration body) body

/-- `POST /v1/completions`. -/
def completions (now : Stamp) (body : Obj) : Except PyErr MockReply := do
  respond completionsRoute now (← E.completionsGeneration body) body

end MockBackendServer

/-! ## Words -/

theorem joinWords_cons_cons (w w' : List Char) (ws : List (List Char)) :
    joinWords (w :: w' :: ws) = String.ofList (w ++ [' ']) ++ joinWords (w' :: ws) := by
  rw [joinWords, List.intercalate_cons_cons, String.ofList_append]
  rfl

/-- The pieces of a stream make up its words, joined. -/
theorem join_pieces : ∀ ws : List (List Char), String.join (pieces ws) = joinWords ws
  | [] => String.join_nil
  | [w] => by
    rw [pieces, String.join_cons, String.join_nil, String.append_empty, joinWords, List.intercalate_singleton]
  | w :: w' :: ws => by
    rw [pieces, String.join_cons, join_pieces (w' :: ws), joinWords_cons_cons]

theorem joinWords_split (text : String) : joinWords (split text) = text := by
  rw [joinWords, split, List.intercalate_splitOn, String.ofList_toList]

namespace Generation

variable {g : Generation}

/-- For a budget that is not negative the text of a reply is its streamed words, joined. -/
theorem replyText_eq (h : 0 ≤ g.maxTokens) : g.replyText = joinWords g.streamWords := by
  unfold replyText streamWords truncated upTo
  rw [if_pos h]
  split
  · rfl
  · rename_i hfits
    have hall : (split g.text).length ≤ g.maxTokens.toNat := by
      rw [decide_eq_true_eq] at hfits
      omega
    rw [List.take_of_length_le hall, joinWords_split]

/-- For a budget that is not negative a reply reports as many tokens as a stream has words. -/
theorem generated_eq (h : 0 ≤ g.maxTokens) : g.generated = g.streamWords.length := by
  unfold generated streamWords upTo
  rw [if_pos h, List.length_take]
  omega

/-- What is generated, as a reply. -/
def reply (g : Generation) : EngineReply := ⟨joinWords g.streamWords, [], g.finish, g.promptTokens, g.streamWords.length⟩

end Generation

/-! ## The JSON reply -/

/-- The route for chats and the one for completions. -/
def route (isChat : Bool) : MockRoute := if isChat then chatRoute else completionsRoute

section Reply

variable {g : Generation} (isChat : Bool) (now : Stamp) {model : Json}

theorem written_replyJson (h : 0 ≤ g.maxTokens) : g.reply.Written isChat (replyJson (route isChat) now model g) := by
  have husage : UsageMember [("id", .str ((route isChat).idHead ++ toString now.ms)), ("object", .str (route isChat).object),
      ("created", .int now.s), ("model", model), ("choices", .arr [(route isChat).choice g.replyText g.finish]),
      ("usage", usage g.promptTokens g.generated)] g.reply.promptTokens g.reply.completionTokens :=
    ⟨_, rfl, rfl, congrArg (fun n => some (Json.int n)) (g.generated_eq h), .inr ⟨_, rfl⟩⟩
  have htext := Generation.replyText_eq h
  cases isChat with
  | true => exact ⟨_, _, _, rfl, rfl, .inl rfl, ⟨_, rfl, .inl (congrArg (fun s => some (Json.str s)) htext), .inr ⟨rfl, .inl rfl⟩⟩, husage⟩
  | false => exact ⟨_, _, _, rfl, rfl, .inl rfl, ⟨congrArg (fun s => some (Json.str s)) htext, rfl⟩, husage⟩

/-! ## The events of a stream -/

/-- The pieces of the reply that the chunks of a stream hold. -/
def deltas (isChat : Bool) (g : Generation) : List Delta :=
  (if isChat then [⟨"", [], ""⟩] else []) ++ (pieces g.streamWords).map fun text => ⟨text, [], ""⟩

theorem mem_deltas {d : Delta} (h : d ∈ deltas isChat g) : d.fragments = [] ∧ d.finish = "" := by
  unfold deltas at h
  rcases List.mem_append.1 h with h | h
  · cases isChat with
    | true => cases List.mem_singleton.1 h; exact ⟨rfl, rfl⟩
    | false => cases h
  · obtain ⟨text, -, rfl⟩ := List.mem_map.1 h
    exact ⟨rfl, rfl⟩

theorem cutInto_deltas (g : Generation) : g.reply.CutInto (deltas isChat g) ⟨"", [], g.finish⟩ := by
  have htexts : (pieces g.streamWords).map (Delta.text ∘ fun text => (⟨text, [], ""⟩ : Delta)) = pieces g.streamWords :=
    List.map_id _
  have hnone : ((deltas isChat g ++ [(⟨"", [], g.finish⟩ : Delta)]).flatMap Delta.fragments) = [] := by
    rw [List.flatMap_eq_nil_iff]
    intro d hd
    rcases List.mem_append.1 hd with hd | hd
    · exact (mem_deltas isChat hd).1
    · cases List.mem_singleton.1 hd; rfl
  refine ⟨?_, ⟨?_, ?_⟩, fun d hd => (mem_deltas isChat hd).2, rfl⟩
  · unfold deltas
    rw [List.map_append, List.map_append, List.map_map, htexts, String.join_append, String.join_append, join_pieces]
    cases isChat <;> simp [String.join_cons, String.join_nil, Generation.reply]
  · rw [hnone]
    exact List.forall_mem_nil _
  · intro i c hc
    cases hc

theorem streamed_chunks (model : Json) : g.reply.Streamed isChat
    (chunks (route isChat) now model g ++ [usageChunk (route isChat) now model g]) := by
  have hopening : List.Forall₂ (Delta.Written isChat) (if isChat then [⟨"", [], ""⟩] else [])
      ((route isChat).opening.map (chunk (route isChat) now model)) := by
    cases isChat with
    | true => exact .cons ⟨_, _, _, rfl, .inl rfl, rfl, .inr ⟨rfl, .inr rfl⟩, ⟨_, rfl, .inl rfl, .inr ⟨rfl, .inl rfl⟩⟩⟩ .nil
    | false => exact .nil
  have hpiece : ∀ text : String, Delta.Written isChat ⟨text, [], ""⟩ (chunk (route isChat) now model ((route isChat).piece text)) := by
    intro text
    cases isChat with
    | true => exact ⟨_, _, _, rfl, .inl rfl, rfl, .inr ⟨rfl, .inr rfl⟩, ⟨_, rfl, .inl rfl, .inr ⟨rfl, .inl rfl⟩⟩⟩
    | false => exact ⟨_, _, _, rfl, .inl rfl, rfl, .inr ⟨rfl, .inr rfl⟩, ⟨.inl rfl, rfl⟩⟩
  have hclosing : Delta.Written isChat ⟨"", [], g.finish⟩
      (chunk (route isChat) now model ((route isChat).closing g.finish)) := by
    cases isChat with
    | true => exact ⟨_, _, _, rfl, .inl rfl, rfl, .inl rfl, ⟨_, rfl, .inr ⟨rfl, .inl rfl⟩, .inr ⟨rfl, .inl rfl⟩⟩⟩
    | false => exact ⟨_, _, _, rfl, .inl rfl, rfl, .inl rfl, ⟨.inl rfl, rfl⟩⟩
  refine ⟨deltas isChat g, ⟨"", [], g.finish⟩, chunks (route isChat) now model g, _, cutInto_deltas isChat g, ?_,
    ⟨_, rfl, ⟨_, rfl, rfl, rfl, .inr ⟨_, rfl⟩⟩, rfl⟩, rfl⟩
  unfold chunks deltas
  rw [List.map_append, List.map_append, List.map_map]
  have hpieces : List.Forall₂ (Delta.Written isChat) ((pieces g.streamWords).map fun text => ⟨text, [], ""⟩)
      ((pieces g.streamWords).map (chunk (route isChat) now model ∘ (route isChat).piece)) :=
    List.forall₂_map_left_iff.2 (List.forall₂_map_right_iff.2 (List.forall₂_same.2 fun text _ => hpiece text))
  exact List.rel_append (List.rel_append hopening hpieces) (.cons hclosing .nil)

end Reply

/-! ## The stream on the wire -/

/-- The text of an event. -/
def eventText (data : String) : String := "data: " ++ data ++ "\n\n"

/-- The lines of events and their end. -/
def eventLines (datas : List String) : List (List Char) := datas.flatMap fun data => ["data: ".toList ++ data.toList, []]

theorem toList_join_eventText : ∀ datas : List String,
    (String.join (datas.map eventText)).toList = Text.Lines.unlines (eventLines datas)
  | [] => by rw [List.map_nil, String.join_nil]; rfl
  | data :: datas => by
    have hline : (eventText data).toList = Text.Lines.unlines ["data: ".toList ++ data.toList, []] := by
      simp [eventText, Text.Lines.unlines]
    rw [List.map_cons, String.join_cons, String.toList_append, toList_join_eventText datas, hline]
    simp [Text.Lines.unlines, eventLines]

/-- A generator goes on where its first part ended. -/
theorem run_bind {σ α β : Type} {m : ExceptT PyErr (StateM σ) α} {a : α} {st st' : σ} (h : m st = (.ok a, st'))
    (k : α → ExceptT PyErr (StateM σ) β) : (m >>= k) st = k a st' := by
  change ExceptT.bindCont k (m st).1 (m st).2 = _
  rw [h]
  rfl

/-- A generator that ends ran both of its parts. -/
theorem bind_ok {σ α β : Type} {m : ExceptT PyErr (StateM σ) α} {k : α → ExceptT PyErr (StateM σ) β} {st out : σ} {b : β}
    (h : (m >>= k) st = (.ok b, out)) : ∃ a st', m st = (.ok a, st') ∧ k a st' = (.ok b, out) := by
  change ExceptT.bindCont k (m st).1 (m st).2 = _ at h
  cases hm : m st with
  | mk x st' =>
    rw [hm] at h
    cases x with
    | ok a => exact ⟨a, st', rfl, h⟩
    | error e => cases h

theorem yieldEvent_ok {e : Json} {st out : List String} (h : yieldEvent e st = (.ok (), out)) :
    ∃ data, dumps .default e = .ok data ∧ out = st ++ [eventText data] := by
  unfold yieldEvent at h
  obtain ⟨data, st', hdata, hyield⟩ := bind_ok h
  cases hd : dumps .default e with
  | error err =>
    rw [hd] at hdata
    cases hdata
  | ok _ =>
    rw [hd] at hdata
    cases hdata
    cases hyield
    exact ⟨_, rfl, rfl⟩

/-- What a generator of events has yielded when it ends. -/
theorem yieldEvents_ok : ∀ {es : List Json} {st out : List String}, yieldEvents es st = (.ok (), out) →
    ∃ datas, List.Forall₂ (fun e data => dumps .default e = .ok data) es datas ∧ out = st ++ datas.map eventText
  | [], st, out, h => by
    cases h
    exact ⟨[], .nil, (List.append_nil _).symm⟩
  | e :: es, st, out, h => by
    obtain ⟨_, st', hone, hrest⟩ := bind_ok h
    obtain ⟨data, hdata, rfl⟩ := yieldEvent_ok hone
    obtain ⟨datas, hdatas, rfl⟩ := yieldEvents_ok hrest
    exact ⟨data :: datas, .cons hdata hdatas, by simp⟩

/-- The usage chunk was asked for. -/
def AsksUsage (streamOptions : Json) : Prop :=
  ∃ v, (streamOptions.orElse (.obj [])).get "include_usage" = .ok v ∧ v.truthy = true

/-- What a stream with a usage chunk has yielded when it ends. -/
theorem eventStream_ok {m : MockRoute} {now : Stamp} {model : Json} {g : Generation} {streamOptions : Json}
    (hasks : AsksUsage streamOptions) {texts : List String}
    (h : eventStream m now model g streamOptions [] = (.ok (), texts)) :
    ∃ datas, List.Forall₂ (fun e data => dumps .default e = .ok data) (chunks m now model g ++ [usageChunk m now model g])
      datas ∧ texts = (datas ++ ["[DONE]"]).map eventText := by
  obtain ⟨v, hv, htruthy⟩ := hasks
  obtain ⟨_, st₁, h₁, h⟩ := bind_ok h
  obtain ⟨datas, hdatas, rfl⟩ := yieldEvents_ok h₁
  obtain ⟨v', st₂, h₂, h⟩ := bind_ok h
  rw [hv] at h₂
  cases h₂
  dsimp only at h
  rw [if_pos htruthy] at h
  obtain ⟨_, st₃, h₃, h⟩ := bind_ok h
  obtain ⟨data, hdata, rfl⟩ := yieldEvent_ok h₃
  cases h
  refine ⟨datas ++ [data], List.rel_append hdatas (.cons hdata .nil), ?_⟩
  simp [eventText]

/-- A stream of events that can all be written ends without raising. -/
theorem eventStream_returns {m : MockRoute} {now : Stamp} {model : Json} {g : Generation} {streamOptions : Json}
    (hasks : AsksUsage streamOptions)
    (h : (chunks m now model g ++ [usageChunk m now model g]).all (Dumps.encodable .default) = true) :
    ∃ texts, eventStream m now model g streamOptions [] = (.ok (), texts) := by
  have hone : ∀ {e : Json}, Dumps.encodable .default e = true → ∀ st, ∃ out, yieldEvent e st = (.ok (), out) := by
    intro e he st
    unfold yieldEvent
    rw [dumps_eq_ok.2 ⟨he, rfl⟩]
    exact ⟨_, rfl⟩
  have hall : ∀ {es : List Json}, es.all (Dumps.encodable .default) = true → ∀ st, ∃ out, yieldEvents es st = (.ok (), out) := by
    intro es
    induction es with
    | nil => exact fun _ st => ⟨st, rfl⟩
    | cons e es ih =>
      intro hes st
      rw [List.all_cons, Bool.and_eq_true] at hes
      obtain ⟨st', hst'⟩ := hone hes.1 st
      obtain ⟨out, hout⟩ := ih hes.2 st'
      exact ⟨out, by rw [yieldEvents, run_bind hst', hout]⟩
  rw [List.all_append, Bool.and_eq_true, List.all_cons, List.all_nil, Bool.and_true] at h
  obtain ⟨st₁, h₁⟩ := hall h.1 []
  obtain ⟨st₂, h₂⟩ := hone h.2 st₁
  obtain ⟨v, hv, htruthy⟩ := hasks
  refine ⟨st₂ ++ [eventText "[DONE]"], ?_⟩
  unfold eventStream
  rw [run_bind h₁, hv]
  show (if v.truthy = true then yieldEvent (usageChunk m now model g) >>= fun _ => yieldData "[DONE]" else yieldData "[DONE]") st₁ = _
  rw [if_pos htruthy, run_bind h₂]
  rfl

/-- A chunk names what it holds, if the model does. -/
theorem sound_envelope {m : MockRoute} {now : Stamp} {model : Json} (hmodel : model.Sound) {object : String} {rest : Obj}
    (hkeys : (Dict.keys ([("id", Json.null), ("object", .null), ("created", .null), ("model", .null)] ++ rest)).Nodup)
    (hrest : Json.ProperMembers PyFloat.Named rest) : (envelope m now model object rest).Sound :=
  ⟨hkeys, trivial, trivial, trivial, hmodel, hrest⟩

section Sound

variable (isChat : Bool) (now : Stamp) {model : Json} (hmodel : model.Sound) (g : Generation)

include hmodel

theorem sound_replyJson : (replyJson (route isChat) now model g).Sound := by
  refine sound_envelope hmodel (by simp [Dict.keys]) ⟨⟨?_, trivial⟩, ⟨?_, trivial⟩⟩
  · cases isChat
    · exact ⟨by simp [Dict.keys], trivial, trivial, trivial, trivial⟩
    · exact ⟨by simp [Dict.keys], trivial, ⟨by simp [Dict.keys], trivial, trivial, trivial⟩, trivial, trivial⟩
  · exact ⟨by simp [Dict.keys], trivial, trivial, trivial, trivial⟩

theorem sound_usageChunk : (usageChunk (route isChat) now model g).Sound :=
  sound_envelope hmodel (by simp [Dict.keys]) ⟨trivial, ⟨by simp [Dict.keys], trivial, trivial, trivial, trivial⟩, trivial⟩

theorem sound_chunks : ∀ e ∈ chunks (route isChat) now model g, e.Sound := by
  have hchunk : ∀ {choice : Json}, choice.Sound → (chunk (route isChat) now model choice).Sound := fun hc =>
    sound_envelope hmodel (by simp [Dict.keys]) ⟨⟨hc, trivial⟩, trivial⟩
  intro e he
  obtain ⟨choice, hchoice, rfl⟩ := List.mem_map.1 he
  apply hchunk
  rcases List.mem_append.1 hchoice with hchoice | hchoice
  · rcases List.mem_append.1 hchoice with hchoice | hchoice
    · cases isChat
      · cases hchoice
      · cases List.mem_singleton.1 hchoice
        exact ⟨by simp [Dict.keys], trivial, ⟨by simp [Dict.keys], trivial, trivial, trivial⟩, trivial, trivial⟩
    · obtain ⟨text, -, rfl⟩ := List.mem_map.1 hchoice
      cases isChat
      · exact ⟨by simp [Dict.keys], trivial, trivial, trivial, trivial⟩
      · exact ⟨by simp [Dict.keys], trivial, ⟨by simp [Dict.keys], trivial, trivial⟩, trivial, trivial⟩
  · cases List.mem_singleton.1 hchoice
    cases isChat
    · exact ⟨by simp [Dict.keys], trivial, trivial, trivial, trivial⟩
    · exact ⟨by simp [Dict.keys], trivial, ⟨by simp [Dict.keys], trivial⟩, trivial, trivial⟩

end Sound

/-- The text written for an object is one that reads as it. -/
theorem objectText_dumps {l : Layout} {kvs : Obj} (hs : (Json.obj kvs).Sound) {data : String}
    (h : dumps l (.obj kvs) = .ok data) : ObjectText (.obj kvs) data.toList := by
  have hread := loads_dumps hs h
  rw [← String.ofList_toList (s := data)] at hread
  rw [(dumps_eq_ok.1 h).2, String.toList_ofList] at hread ⊢
  exact ⟨(Dumps.value_obj_ends l kvs).1, (Dumps.value_obj_ends l kvs).2, hread⟩

theorem dataLine_eventText (data : List Char) : DataLine data ("data: ".toList ++ data) :=
  ⟨[' '], [], by simp [Pad], List.forall_mem_nil _, by simp⟩

/-- Lines written for events carry them. -/
theorem carries_eventLines : ∀ {es : List Json} {datas : List String},
    List.Forall₂ (fun e data => ObjectText e data.toList) es datas → Carries (eventLines (datas ++ ["[DONE]"])) es
  | _, _, .nil => .done (dataLine_eventText _)
  | _, _, .cons hone hrest => .event hone (dataLine_eventText _) (.blank (List.forall_mem_nil _) (carries_eventLines hrest))

/-- Texts written for events are of printed characters. -/
theorem plain_datas : ∀ {es : List Json} {datas : List String},
    List.Forall₂ (fun e data => dumps .default e = .ok data) es datas → ∀ data ∈ datas, ∀ c ∈ data.toList, Dumps.Plain c
  | _, _, .nil => List.forall_mem_nil _
  | _, _, .cons hone hrest => List.forall_mem_cons.2
    ⟨fun c hc => ⟨(prints_dumps hone c hc).1, (prints_dumps hone c hc).2 rfl⟩, plain_datas hrest⟩

theorem plain_eventLines {datas : List String} (h : ∀ data ∈ datas, ∀ c ∈ data.toList, Dumps.Plain c) :
    ∀ l ∈ eventLines datas, ∀ c ∈ l, Dumps.Plain c := by
  intro l hl c hc
  obtain ⟨data, hdata, hl⟩ := List.mem_flatMap.1 hl
  simp only [List.mem_cons, List.not_mem_nil, or_false] at hl
  rcases hl with rfl | rfl
  · rcases List.mem_append.1 hc with hc | hc
    · exact (by decide : ∀ c ∈ "data: ".toList, Dumps.Plain c) c hc
    · exact h data hdata c hc
  · cases hc

/-- Lines of printed characters arrive as they are, however their bytes are cut. -/
theorem arrives_of_plain {ls : List (List Char)} (h : ∀ l ∈ ls, ∀ c ∈ l, Dumps.Plain c) {cs : List (List UInt8)}
    (hcs : cs.flatten = Text.Utf8.encode (Text.Lines.unlines ls)) :
    Text.Utf8.CleanCuts cs ∧ Text.Utf8.decode cs.flatten = Text.Lines.unlines ls ∧ ∀ l ∈ ls, '\n' ∉ l := by
  have hascii : ∀ c ∈ Text.Lines.unlines ls, c.toNat < 128 := by
    intro c hc
    obtain ⟨l, hl, hc⟩ := List.mem_flatMap.1 hc
    rcases List.mem_append.1 hc with hc | hc
    · have hplain := (h l hl c hc).2
      omega
    · rw [List.mem_singleton.1 hc]
      decide
  refine ⟨Text.Utf8.cleanCuts_of_ascii ?_, hcs ▸ Text.Utf8.decode_encode _, fun l hl hmem => ?_⟩
  · rw [hcs, Text.Utf8.encode_ascii hascii]
    intro b hb
    obtain ⟨c, hc, rfl⟩ := List.mem_map.1 hb
    have hlt := hascii c hc
    rw [Text.Utf8.toNat_byte (by omega)]
    exact hlt
  · exact absurd (h l hl _ hmem).1 (by decide)

/-- The bytes of a stream that was yielded to its end deliver the reply, however they are cut. -/
theorem delivered_eventStream (isChat : Bool) {now : Stamp} {model : Json} (hmodel : model.Sound) {g : Generation}
    {streamOptions : Json} (hasks : AsksUsage streamOptions) {texts : List String}
    (h : eventStream (route isChat) now model g streamOptions [] = (.ok (), texts)) {cs : List (List UInt8)}
    (hcs : cs.flatten = Text.Utf8.encode (String.join texts).toList) : g.reply.Delivered isChat cs := by
  obtain ⟨datas, hdatas, rfl⟩ := eventStream_ok hasks h
  have hobjects : ∀ e ∈ chunks (route isChat) now model g ++ [usageChunk (route isChat) now model g],
      ∃ kvs, e = .obj kvs ∧ e.Sound := by
    intro e he
    rcases List.mem_append.1 he with he | he
    · have hs := sound_chunks isChat now hmodel g e he
      obtain ⟨choice, -, rfl⟩ := List.mem_map.1 he
      exact ⟨_, rfl, hs⟩
    · cases List.mem_singleton.1 he
      exact ⟨_, rfl, sound_usageChunk isChat now hmodel g⟩
  have htexts : List.Forall₂ (fun e data => ObjectText e data.toList)
      (chunks (route isChat) now model g ++ [usageChunk (route isChat) now model g]) datas := by
    refine List.Forall₂.imp ?_ ((List.forall₂_and_left _ _).2 ⟨hobjects, hdatas⟩)
    rintro e data ⟨⟨kvs, rfl, hs⟩, hdata⟩
    exact objectText_dumps hs hdata
  have hplain : ∀ data ∈ datas ++ ["[DONE]"], ∀ c ∈ data.toList, Dumps.Plain c := by
    intro data hdata
    rcases List.mem_append.1 hdata with hdata | hdata
    · exact plain_datas hdatas data hdata
    · cases List.mem_singleton.1 hdata
      exact (by decide : ∀ c ∈ "[DONE]".toList, Dumps.Plain c)
  rw [toList_join_eventText] at hcs
  obtain ⟨huncut, hdecoded, hlines⟩ := arrives_of_plain (plain_eventLines hplain) hcs
  exact ⟨huncut, _, _, hdecoded, hlines, carries_eventLines htexts, streamed_chunks isChat now model⟩

/-! ## One generation, answered in both ways -/

namespace MockBackendServer

variable (E : MockBackendServer)

/-- What a route generates for a body. -/
def generation (isChat : Bool) : Obj → Except PyErr Generation := if isChat then E.chatGeneration else E.completionsGeneration

/-- The handler of a route. -/
def handle (isChat : Bool) : Stamp → Obj → Except PyErr MockReply := if isChat then E.chat else E.completions

variable {E}

theorem handle_eq (isChat : Bool) (now : Stamp) (body : Obj) :
    E.handle isChat now body = E.generation isChat body >>= fun g => respond (route isChat) now g body := by
  cases isChat <;> rfl

/-- What a route replies is the JSON of what it generates. -/
theorem handle_json {isChat : Bool} {now : Stamp} {body : Obj} {text : String}
    (h : E.handle isChat now body = .ok (.json text)) : ∃ g, E.generation isChat body = .ok g ∧
      dumps .compact (replyJson (route isChat) now (modelName body) g) = .ok text := by
  rw [handle_eq] at h
  obtain ⟨g, hg, h⟩ := bind_eq_ok.1 h
  unfold respond at h
  split at h
  · cases h
  · obtain ⟨text', htext, h⟩ := bind_eq_ok.1 h
    cases h
    exact ⟨g, hg, htext⟩

/-- What a route streams are the events of what it generates. -/
theorem handle_stream {isChat : Bool} {now : Stamp} {body : Obj} {gen : TextGen Unit}
    (h : E.handle isChat now body = .ok (.stream gen)) : ∃ g, E.generation isChat body = .ok g ∧
      gen = eventStream (route isChat) now (modelName body) g ((Dict.get? body "stream_options").getD .null) := by
  rw [handle_eq] at h
  obtain ⟨g, hg, h⟩ := bind_eq_ok.1 h
  unfold respond at h
  split at h
  · cases h
    exact ⟨g, hg, rfl⟩
  · obtain ⟨text, -, h⟩ := bind_eq_ok.1 h
    cases h

/-- The text of a JSON reply reads as what is generated. -/
theorem written_of_json {isChat : Bool} {now : Stamp} {body : Obj} {g : Generation} (hg : E.generation isChat body = .ok g)
    (hbudget : 0 ≤ g.maxTokens) (hmodel : (modelName body).Sound) {text : String}
    (h : E.handle isChat now body = .ok (.json text)) : ∃ data, loads text = .ok data ∧ g.reply.Written isChat data := by
  obtain ⟨g', hg', htext⟩ := handle_json h
  cases hg.symm.trans hg'
  exact ⟨_, loads_dumps (sound_replyJson isChat now hmodel g) htext, written_replyJson isChat now hbudget⟩

/-- The bytes of a stream with a usage chunk deliver what is generated. -/
theorem delivered_of_stream {isChat : Bool} {now : Stamp} {body : Obj} {g : Generation}
    (hg : E.generation isChat body = .ok g) (hmodel : (modelName body).Sound)
    (hasks : AsksUsage ((Dict.get? body "stream_options").getD .null)) {gen : TextGen Unit}
    (h : E.handle isChat now body = .ok (.stream gen)) {texts : List String} (hgen : gen [] = (.ok (), texts))
    {cs : List (List UInt8)} (hcs : cs.flatten = Text.Utf8.encode (String.join texts).toList) :
    g.reply.Delivered isChat cs := by
  obtain ⟨g', hg', rfl⟩ := handle_stream h
  cases hg.symm.trans hg'
  exact delivered_eventStream isChat hmodel hasks hgen hcs

/-- A request that is streamed to its end with a usage chunk and one that asks the same and is not streamed
are answered with one reply, the first words of what is echoed: as JSON, and as events, however the
connection cuts their bytes. -/
theorem mock_answers_one_reply (E : MockBackendServer) (isChat : Bool) {now now' : Stamp} {body body' : Obj}
    {g : Generation} (hg : E.generation isChat body = .ok g) (hg' : E.generation isChat body' = .ok g)
    (hbudget : 0 ≤ g.maxTokens) (hmodel : (modelName body).Sound) (hmodel' : (modelName body').Sound)
    (hasks : AsksUsage ((Dict.get? body' "stream_options").getD .null)) {text : String}
    (hjson : E.handle isChat now body = .ok (.json text)) {gen : TextGen Unit}
    (hstream : E.handle isChat now' body' = .ok (.stream gen)) {texts : List String} (hgen : gen [] = (.ok (), texts)) :
    ∃ r : EngineReply, r.text = joinWords ((split g.text).take g.maxTokens.toNat) ∧
      (∃ data, loads text = .ok data ∧ r.Written isChat data) ∧
      ∀ cs : List (List UInt8), cs.flatten = Text.Utf8.encode (String.join texts).toList → r.Delivered isChat cs :=
  ⟨g.reply, congrArg joinWords (if_pos hbudget), written_of_json hg hbudget hmodel hjson,
    fun _ hcs => delivered_of_stream hg' hmodel' hasks hstream hgen hcs⟩

end MockBackendServer

/-- A server, and a prompt that is asked for one word of its echo. -/
def mockServer : MockBackendServer := ⟨.ascii, "m"⟩

def askOne : Obj := [("prompt", .str "a b"), ("max_tokens", .int 2)]

def askOneStreamed : Obj := askOne ++ [("stream", .bool true), ("stream_options", .obj [("include_usage", .bool true)])]

theorem mock_answers_one_reply_ab : ∃ text texts, ∃ r : EngineReply,
    mockServer.handle false ⟨0, 0⟩ askOne = .ok (.json text) ∧ r.text = "[m] a" ∧
      (∃ data, loads text = .ok data ∧ r.Written false data) ∧
      ∀ cs : List (List UInt8), cs.flatten = Text.Utf8.encode (String.join texts).toList → r.Delivered false cs := by
  have hjson : ∃ text, mockServer.handle false ⟨0, 0⟩ askOne = .ok (.json text) := ⟨_, rfl⟩
  obtain ⟨text, hjson⟩ := hjson
  have hgen : ∃ texts, eventStream completionsRoute ⟨0, 0⟩ (.str "mock-model") ⟨"[m] a b", 2, 1⟩
      (.obj [("include_usage", .bool true)]) [] = (.ok (), texts) := ⟨_, rfl⟩
  obtain ⟨texts, hgen⟩ := hgen
  obtain ⟨r, htext, hr⟩ := @MockBackendServer.mock_answers_one_reply mockServer false ⟨0, 0⟩ ⟨0, 0⟩ askOne askOneStreamed
    ⟨"[m] a b", 2, 1⟩ (by rfl) (by rfl) (by decide) trivial trivial ⟨.bool true, rfl, rfl⟩ _ hjson _ (by rfl) _ hgen
  exact ⟨text, texts, r, hjson, htext.trans (by decide), hr⟩

end Dio.Engine
