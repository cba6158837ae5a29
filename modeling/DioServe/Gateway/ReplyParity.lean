/-
The streamed and the single answer of Ollama's dialect. Whatever way an OpenAI engine streams a reply,
the frames of `/api/chat` and `/api/generate` have its text, and the last one ends as the single answer
to the same reply does; only a tool call without an id is given one in the stream.
-/
import DioServe.Gateway.Fragments
import DioServe.Gateway.HangUp
import DioServe.Gateway.Cutting

namespace Dio.Gateway

open Data Py Effect Scheduler

variable {K : Type}

/-! ## The frames of a stream -/

/-- The frames a history yields, as JSON. -/
def yielded (t : List (Event (sig K))) : List Json :=
  t.filterMap fun ev =>
    match ev.op with
    | .yield (.ndjson frame) => some frame
    | _ => none

theorem yielded_append (t t' : List (Event (sig K))) : yielded (t ++ t') = yielded t ++ yielded t' :=
  List.filterMap_append

/-- A frame the consumer reads on after. -/
theorem exec_yieldFrame {frame : Json} {t : List (Event (sig K))} {x : Except Exn Unit}
    (h : (yield (.ndjson frame) : Co K Unit).Exec t x) (hread : ∀ frame, ⟨.yield frame, .close⟩ ∉ t) :
    yielded t = [frame] ∧ x = .ok () := by
  obtain ⟨r, rfl, rfl⟩ := (exec_yield _ _ _).1 h
  cases r with
  | next => exact ⟨rfl, rfl⟩
  | close => exact absurd (List.mem_singleton_self _) (hread _)

/-- Frames a consumer reads all of. -/
theorem exec_yieldAll : ∀ {frames : List Json} {t : List (Event (sig K))} {x : Except Exn Unit},
    (yieldAll (frames.map .ndjson)).Exec t x → (∀ frame, ⟨.yield frame, .close⟩ ∉ t) → yielded t = frames ∧ x = .ok ()
  | [], _, _, ⟨rfl, rfl⟩, _ => ⟨rfl, rfl⟩
  | frame :: frames, t, x, h, hread => by
    have hbind : (yield (.ndjson frame) >>= fun _ => yieldAll (frames.map .ndjson) : Co K Unit).Exec t x := h
    rcases (Prog.exec_bind _ _ _ _).1 hbind with ⟨_, t₁, t₂, h1, h2, rfl⟩ | ⟨e, h1, rfl⟩
    · obtain ⟨hfirst, -⟩ := exec_yieldFrame h1 fun frame hf => hread frame (List.mem_append_left _ hf)
      obtain ⟨hrest, rfl⟩ := exec_yieldAll h2 fun frame hf => hread frame (List.mem_append_right _ hf)
      refine ⟨?_, rfl⟩
      rw [yielded_append, hfirst, hrest]
      rfl
    · obtain ⟨-, he⟩ := exec_yieldFrame h1 hread
      cases he

/-- A program that yields no frame. -/
def Frameless {α : Type} (p : Co K α) : Prop := Prog.Only (fun ev => yielded [ev] = []) p

theorem Frameless.yielded {α : Type} {p : Co K α} (hp : Frameless p) {t : List (Event (sig K))} {x : Except Exn α}
    (h : p.Exec t x) : Gateway.yielded t = [] := by
  have hnone := hp t x h
  clear h
  induction t with
  | nil => rfl
  | cons ev t ih =>
    rw [← List.singleton_append, yielded_append, hnone ev (List.mem_cons_self ..), List.nil_append]
    exact ih fun ev' hev' => hnone ev' (List.mem_cons_of_mem _ hev')

section Generator

variable [Field K]

theorem frameless_closeOut {w : String} {t0 : K} {tokens : Int} {clientGone streamOk : Bool} :
    Frameless (closeOut w t0 tokens clientGone streamOk) := by
  refine Prog.Only.bind (Prog.Only.bind (Prog.Only.call fun _ => rfl) fun _ => Prog.Only.ret _) fun _ =>
    Prog.Only.bind (Prog.Only.ask fun _ => rfl) fun _ => ?_
  split <;> exact Prog.Only.call fun _ => rfl

omit [Field K] in
/-- The closing frame, read. -/
theorem exec_finishOllama {p : TranslParams} {st : Text.Lines.Feed Transl} {t : List (Event (sig K))} {x : Except Exn Unit}
    (h : (finishOllama p st : Co K Unit).Exec t x) (hread : ∀ frame, ⟨.yield frame, .close⟩ ∉ t) :
    yielded t = [finalFrame p st.state] ∧ x = .ok () := by
  obtain ⟨now, t', rfl, h'⟩ := (Prog.exec_call_bind (S := sig K) _ _ _ _).1 h
  obtain ⟨hframe, rfl⟩ := exec_yieldFrame h' fun frame hf => hread frame (List.mem_cons_of_mem _ hf)
  exact ⟨hframe, rfl⟩

omit [Field K] in
/-- The frames of a translation, read; a stream that was not ended by its events ends by itself. -/
theorem exec_yieldTranslation {frames : List Json} {st : Text.Lines.Feed Transl} {t : List (Event (sig K))}
    {x : Except Exn (Text.Lines.Feed Transl)} (h : (yieldTranslation frames st : Co K _).Exec t x)
    (hread : ∀ frame, ⟨.yield frame, .close⟩ ∉ t)
    (hend : st.stopped = true ∨ ∀ r, ⟨.iterEnd, r⟩ ∈ t → r = .returned ()) : yielded t = frames ∧ x = .ok st := by
  rcases (Prog.exec_bind _ _ _ _).1 h with ⟨_, t₁, t₂, h1, h2, rfl⟩ | ⟨e, h1, rfl⟩
  · obtain ⟨hframes, -⟩ := exec_yieldAll h1 fun frame hf => hread frame (List.mem_append_left _ hf)
    split at h2
    · obtain ⟨rfl, rfl⟩ := h2
      exact ⟨by rw [List.append_nil]; exact hframes, rfl⟩
    · rename_i hstop
      have hend₂ := hend.resolve_left hstop
      rcases (Prog.exec_bind _ _ _ _).1 h2 with ⟨_, t₃, t₄, h3, ⟨rfl, rfl⟩, rfl⟩ | ⟨e, h3, rfl⟩
      · obtain ⟨r, rfl, -⟩ := (exec_iterEnd _ _).1 h3
        refine ⟨?_, rfl⟩
        rw [yielded_append, hframes]
        exact List.append_nil _
      · obtain ⟨r, rfl, hr⟩ := (exec_iterEnd _ _).1 h3
        rw [hend₂ r (List.mem_append_right _ (List.mem_singleton_self _))] at hr
        cases hr
  · obtain ⟨-, he⟩ := exec_yieldAll h1 hread
    cases he

/-- The frames of a stream that is read to its end, by a consumer that reads on. -/
theorem yielded_read {G : DioGateway K} {w : String} {t0 : K} {tokens : Int} {p : TranslParams} {chunks : List (List UInt8)}
    {st : Text.Lines.Feed Transl} (hst : chunks.foldl (onChunk G.U p) Transl.fresh = st) {t : List (Event (sig K))}
    {x : Except Exn Unit} (h : (ollamaGen G w t0 tokens p).Exec (⟨.aiterBytes, chunks⟩ :: t) x)
    (hread : ∀ frame, ⟨.yield frame, .close⟩ ∉ t)
    (hend : st.stopped = true ∨ ∀ r, ⟨.iterEnd, r⟩ ∈ t → r = .returned ()) :
    yielded t = st.state.out ++ [finalFrame p st.state] := by
  obtain ⟨streamOk, outcome, t₁, t₂, t₃, h1, ⟨y₂, h2⟩, ⟨y₃, h3⟩, rfl⟩ := exec_relayed (exec_ollamaGen.1 h)
  have hread₁ : ∀ frame, ⟨.yield frame, .close⟩ ∉ t₁ := fun frame hf => hread frame (List.mem_append_left _ hf)
  have hend₁ := hend.imp_right fun hr r hmem => hr r (List.mem_append_left _ hmem)
  rw [translateChunks_eq G chunks rfl, hst] at h1
  obtain ⟨hframes, rfl⟩ : yielded t₁ = st.state.out ++ [finalFrame p st.state] ∧ outcome = .ok () := by
    rcases (Prog.exec_bind _ _ _ _).1 h1 with ⟨st', t₄, t₅, h4, h5, rfl⟩ | ⟨e, h4, rfl⟩
    · obtain ⟨hout, hst'⟩ := exec_yieldTranslation h4 (fun frame hf => hread₁ frame (List.mem_append_left _ hf))
        (hend₁.imp_right fun hr r hmem => hr r (List.mem_append_left _ hmem))
      cases hst'
      obtain ⟨hlast, rfl⟩ := exec_finishOllama h5 fun frame hf => hread₁ frame (List.mem_append_right _ hf)
      rw [yielded_append, hout, hlast]
      exact ⟨rfl, rfl⟩
    · obtain ⟨-, he⟩ := exec_yieldTranslation h4 hread₁ hend₁
      cases he
  obtain ⟨rfl, -⟩ : t₂ = [] ∧ y₂ = .ok () := h2
  rw [yielded_append, hframes, List.nil_append, frameless_closeOut.yielded h3, List.append_nil]

/-- The frames of a stream that delivers a reply to a consumer that reads on. -/
theorem yielded_ollamaGen {G : DioGateway K} (hU : G.U.SpacesOnAscii) {w : String} {t0 : K} {tokens : Int}
    {p : TranslParams} {r : EngineReply} {chunks : List (List UInt8)} (hdelivered : r.Delivered p.isChat chunks)
    {t : List (Event (sig K))} {x : Except Exn Unit}
    (h : (ollamaGen G w t0 tokens p).Exec (⟨.aiterBytes, chunks⟩ :: t) x) (hread : ∀ frame, ⟨.yield frame, .close⟩ ∉ t) :
    ∃ st, Translated r p st ∧ yielded t = st.out ++ [finalFrame p st] := by
  obtain ⟨st, hfold, htranslated⟩ := translated_of_delivered hU hdelivered
  exact ⟨st, htranslated, yielded_read hfold h hread (.inl rfl)⟩

end Generator

/-! ## The single answer -/

/-- An exchange returns the answer to its request or, when an engine without a chat route was asked again,
to the second. -/
theorem exec_exchange {G : DioGateway K} {w : String} {body : Obj} {path : Path} {prompt : String}
    {t : List (Event (sig K))} {resp : UpstreamResponse} (h : (exchange G w body path prompt).Exec t (.ok resp)) :
    (∃ request, t = [⟨.post .first request, Outcome.returned resp⟩]) ∨
      ∃ request first request', first.status = 404 ∧
        t = [⟨.post .first request, Outcome.returned first⟩, ⟨.post .again request', Outcome.returned resp⟩] := by
  have hposted : ∀ {n path' body' t' r'}, (forwardTo G n w path' body').Exec t' (.ok r') →
      ∃ request, t' = [⟨.post n request, .returned r'⟩] := by
    intro n path' body' t' r' h
    rcases exec_forwardTo h with ⟨-, ⟨_, he⟩, -⟩ | ⟨_, request, r, -, -, rfl, hr⟩
    · cases he
    · cases r with
      | returned _ => cases hr; exact ⟨request, rfl⟩
      | raised _ => cases hr
      | cancelled => cases hr
  obtain ⟨first, t₁, t₂, h1, h2, rfl⟩ := Prog.exec_bind_ok h
  obtain ⟨request, rfl⟩ := hposted h1
  split at h2
  · rename_i hfall
    obtain ⟨request', rfl⟩ := hposted h2
    exact .inr ⟨request, first, request', hfall.1, rfl⟩
  · obtain ⟨rfl, hr⟩ := h2
    cases hr
    exact .inl ⟨request, rfl⟩

/-- An exchange one of whose requests is answered with a success returns that answer. -/
theorem exchange_answer {G : DioGateway K} {w : String} {body : Obj} {path : Path} {prompt : String} {t : List (Event (sig K))}
    {resp up : UpstreamResponse} {n : Attempt} {request : HttpRequest}
    (h : (exchange G w body path prompt).Exec t (.ok resp)) (hpost : ⟨.post n request, Outcome.returned up⟩ ∈ t)
    (hok : up.status < 400) : resp = up := by
  rcases exec_exchange h with ⟨_, rfl⟩ | ⟨_, first, _, hfirst, rfl⟩
  · cases List.mem_singleton.1 hpost
    rfl
  · simp only [List.mem_cons, List.not_mem_nil, or_false] at hpost
    rcases hpost with hpost | hpost
    -- the first answer of two is a 404, which is no success
    · cases hpost; omega
    · cases hpost; rfl

/-! ## Handing the stream over -/

theorem streamingResponse_ok {status : Nat} {mediaType : String} {headers : Dict String String} {gen : Co K Unit}
    {t : List (Event (sig K))} {r : Reply K} (h : (streamingResponse status mediaType headers gen).Exec t (.ok r)) :
    r = .stream status mediaType headers gen := by
  unfold streamingResponse at h
  split at h
  · obtain ⟨-, h⟩ := h
    cases h
    rfl
  · obtain ⟨-, h⟩ := (exec_py _ _ _).1 h
    cases h

theorem jsonResponse_ok {r r' : JsonResponse K} {t : List (Event (sig K))} (h : (jsonResponse r).Exec t (.ok r')) :
    r' = r := by
  unfold jsonResponse at h
  split at h
  · cases h.2; rfl
  · obtain ⟨-, h⟩ := (exec_py _ _ _).1 h
    cases h

theorem orRelease_ok {α : Type} {w : String} {p : Co K α} {t : List (Event (sig K))} {a : α}
    (h : (orRelease w p).Exec t (.ok a)) : p.Exec t (.ok a) := by
  obtain ⟨y, t₁, t₂, h1, h2, rfl⟩ := (Prog.exec_attempt_bind _ _ _ _).1 h
  cases y with
  | ok a' =>
    obtain ⟨rfl, ha⟩ := h2
    cases ha
    rw [List.append_nil]
    exact h1
  | error e =>
    cases e with
    | exception f =>
      obtain ⟨_, t₃, t₄, -, h4, -⟩ := Prog.exec_bind_ok h2
      cases h4.2
    | badGateway _ _ => cases h2.2
    | cancelled => cases h2.2
    | generatorExit => cases h2.2

section Handler

variable [Field K] [LinearOrder K] [FloorRing K] {G : DioGateway K}

/-- An Ollama stream answers with a stream; with status 200 it is the generator's. -/
theorem proxyOllamaStream_reply {body : Obj} {path : Path} {tier : String} {isChat : Bool} {allowed : Option (List String)}
    {t : List (Event (sig K))} {reply : Reply K} (h : (proxyOllamaStream G body path tier isChat allowed).Exec t (.ok reply)) :
    ∃ status mediaType headers gen, reply = .stream status mediaType headers gen ∧
      (status = 200 → ∃ prompt w t0 tokens, gen = ollamaGen G w t0 tokens (translParams G body isChat prompt)) := by
  rcases exec_admission h with ⟨-, e, he⟩ | ⟨prompt, tokens, -, -, ⟨e, t', rfl, h'⟩ | ⟨w, d, t', rfl, h'⟩⟩
  · cases he
  · exact ⟨_, _, _, _, streamingResponse_ok h', fun h => by cases h⟩
  · obtain ⟨b, t₁, t₂, -, h2, rfl⟩ := Prog.exec_bind_ok h'
    obtain ⟨t0, t₃, t₄, -, h4, rfl⟩ := Prog.exec_bind_ok h2
    obtain ⟨_, t₅, t₆, -, h6, rfl⟩ := Prog.exec_bind_ok h4
    obtain ⟨status, t₇, t₈, -, h8, rfl⟩ := Prog.exec_bind_ok h6
    split at h8
    · rename_i hrefused
      obtain ⟨raw, t₉, t₁₀, -, h10, rfl⟩ := Prog.exec_bind_ok h8
      exact ⟨_, _, _, _, streamingResponse_ok h10, fun h => by omega⟩
    · exact ⟨_, _, _, _, streamingResponse_ok h8, fun _ => ⟨prompt, w, t0, tokens, rfl⟩⟩

/-- Reading the reply of an OpenAI engine. -/
theorem readReply_openai {b : Backend} {body : Obj} {path : Path} {prompt : String} {up : UpstreamResponse} {data : Json}
    {n : Option Int} (hjson : up.json = some data) (hstyle : b.apiStyle ≠ .tgiGenerate)
    (hreported : reportedTokens G prompt data = .ok n) : readReply G b body path prompt up = Prog.ret (data, n) := by
  have hnormal : normalized G b body path prompt up.status data = Prog.ret data := by
    unfold normalized
    rw [if_neg fun h => hstyle h.2.1]
    rfl
  unfold readReply parseReply
  rw [hjson, Option.elim_some, py_ok_bind, hnormal]
  show (py (reportedTokens G prompt data) >>= fun reported => Prog.ret (data, reported)).attempt >>= _ = _
  rw [hreported]
  rfl

/-- The answer to a request whose exchange ended with a success: what is read of the engine's reply,
annotated. -/
theorem proxyJson_settled {body : Obj} {path : Path} {tier : String} {allowed : Option (List String)}
    {t : List (Event (sig K))} {resp : JsonResponse K} (h : (proxyJson G body path tier allowed).Exec t (.ok resp))
    {a : PickArgs} {w : String} {d : RoutingDecision K} (hpick : ⟨.pick a, .ok (w, d)⟩ ∈ t) {b : Backend}
    (hb : G.pool.get? w = some b) {n : Attempt} {request : HttpRequest} {up : UpstreamResponse}
    (hpost : ⟨.post n request, Outcome.returned up⟩ ∈ t) (hok : up.status < 400) :
    ∃ prompt tokens e2eMs data reported t', (readReply G b body path prompt up).Exec t' (.ok (data, reported)) ∧
      resp = annotate G w b d e2eMs tokens up.status data reported := by
  obtain ⟨prompt, tokens, t', -, -, -, rfl, h'⟩ :=
    exec_admission_on (fun _ => inert_jsonResponse.plain.pickless) (fun _ _ _ _ => pickless_jsonAdmitted) h hpick
  obtain ⟨t0, t₁, t₂, h1, h2, rfl⟩ := Prog.exec_bind_ok h'
  obtain ⟨r, t₃, t₄, h3, h4, rfl⟩ := Prog.exec_bind_ok h2
  have hpost₃ : ⟨.post n request, Outcome.returned up⟩ ∈ t₃ := by
    obtain ⟨_, rfl, -⟩ := (exec_perfCounter _ _).1 h1
    simp only [List.cons_append, List.nil_append, List.mem_cons, List.mem_append] at hpost
    rcases hpost with hpost | hpost | hpost | hpost
    · cases hpost
    · cases hpost
    · exact hpost
    · exact absurd (plain_settle _ _ h4 _ hpost) Bool.false_ne_true
  obtain rfl := exchange_answer (orRelease_ok h3) hpost₃ hok
  obtain ⟨e2eMs, t₅, t₆, -, h6, rfl⟩ := Prog.exec_bind_ok h4
  rw [hb, Option.elim_some, py_ok_bind] at h6
  obtain ⟨⟨data, reported⟩, t₇, t₈, h7, h8, rfl⟩ := Prog.exec_bind_ok h6
  obtain ⟨_, t₉, t₁₀, -, h10, rfl⟩ := Prog.exec_bind_ok h8
  obtain ⟨_, t₁₁, t₁₂, -, h12, rfl⟩ := Prog.exec_bind_ok h10
  exact ⟨prompt, tokens, e2eMs, data, reported, t₇, h7, jsonResponse_ok h12⟩

/-- A success is answered with the object read of the engine's reply. -/
theorem annotate_obj {w : String} {b : Backend} {d : RoutingDecision K} {e2eMs : K} {tokens : Int} {status : Nat}
    (hok : status < 400) (kvs : Obj) (reported : Option Int) :
    (annotate G w b d e2eMs tokens status (.obj kvs) reported).status = 200 ∧
      (annotate G w b d e2eMs tokens status (.obj kvs) reported).content = .obj (Dict.erase kvs "dio") := by
  rw [annotate, if_neg (by omega)]
  exact ⟨rfl, rfl⟩

/-- The annotated answer to a successful reply of an OpenAI engine. -/
theorem proxyJson_answer {body : Obj} {path : Path} {tier : String} {allowed : Option (List String)}
    {t : List (Event (sig K))} {resp : JsonResponse K} (h : (proxyJson G body path tier allowed).Exec t (.ok resp))
    {a : PickArgs} {w : String} {d : RoutingDecision K} (hpick : ⟨.pick a, .ok (w, d)⟩ ∈ t) {b : Backend}
    (hb : G.pool.get? w = some b) (hstyle : b.apiStyle ≠ .tgiGenerate) {n : Attempt} {request : HttpRequest}
    {up : UpstreamResponse} (hpost : ⟨.post n request, Outcome.returned up⟩ ∈ t) (hok : up.status < 400) {kvs : Obj}
    (hjson : up.json = some (.obj kvs)) (hreported : ∀ prompt, ∃ n, reportedTokens G prompt (.obj kvs) = .ok n) :
    resp.status = 200 ∧ resp.content = .obj (Dict.erase kvs "dio") := by
  obtain ⟨prompt, tokens, e2eMs, data, reported, t', hread, rfl⟩ := proxyJson_settled h hpick hb hpost hok
  obtain ⟨m, hm⟩ := hreported prompt
  rw [readReply_openai hjson hstyle hm] at hread
  cases hread.2
  exact annotate_obj hok kvs _

end Handler

/-! ## What a client reads of an answer -/

/-- A tool call as a client reads it. -/
structure ReadCall where
  id : Json
  type : Json
  name : Json
  arguments : Json

def readCall (j : Json) : ReadCall :=
  ⟨memberOf "id" j, memberOf "type" j, memberOf "name" (memberOf "function" j), memberOf "arguments" (memberOf "function" j)⟩

/-- The tool calls of a frame or an answer. -/
def toolCallsIn (frame : Json) : List ReadCall :=
  match memberOf "tool_calls" (memberOf "message" frame) with
  | .arr js => js.map readCall
  | _ => []

def ToolCall.read (c : ToolCall) : ReadCall := ⟨.str c.id, .str "function", .str c.name, .str c.arguments⟩

/-- A tool call without an id is given the `idx`th. -/
def ReadCall.withId (idx : Int) (c : ReadCall) : ReadCall := { c with id := c.id.orElse (.str s!"call_{idx}") }

/-- A final frame ends as an answer does, its tool calls given ids. -/
structure EndsAs (final answer : Json) : Prop where
  doneReason : memberOf "done_reason" final = memberOf "done_reason" answer
  promptEvalCount : memberOf "prompt_eval_count" final = memberOf "prompt_eval_count" answer
  evalCount : memberOf "eval_count" final = memberOf "eval_count" answer
  toolCalls : toolCallsIn final = (toolCallsIn answer).mapIdx fun i c => c.withId i

/-- A tool call with an id keeps it. -/
theorem withId_of_id {c : ToolCall} (h : c.id ≠ "") (idx : Int) : c.read.withId idx = c.read := by
  simp [ToolCall.read, ReadCall.withId, Json.orElse, Json.truthy, h]

theorem readCall_delta (idx : Int) (c : ToolCall) : readCall (toolCallDelta idx c.slot) = c.read.withId idx := by
  have hid : c.slot.id.orElse (.str s!"call_{idx}") = (Json.str c.id).orElse (.str s!"call_{idx}") := by
    by_cases h : c.id = ""
    · rw [ToolCall.slot, if_pos h, h]; rfl
    · rw [ToolCall.slot, if_neg h]
  show (⟨c.slot.id.orElse (.str s!"call_{idx}"), .str "function", c.slot.name, .str c.slot.arguments⟩ : ReadCall) = _
  rw [hid]
  rfl

theorem toolCallsIn_finalFrame (p : TranslParams) (st : Transl) :
    toolCallsIn (finalFrame p st) = if p.isChat then (ollamaToolCallDeltas st.toolCalls).map readCall else [] := by
  unfold finalFrame
  cases hchat : p.isChat with
  | true =>
    cases hcalls : st.toolCalls with
    | nil => rfl
    | cons q qs => rfl
  | false => rfl

theorem readCall_written {c : ToolCall} {j : Json} (h : c.Written j) : readCall j = c.read := by
  obtain ⟨kvs, fn, rfl, hid, htype, hfn, hname, harguments⟩ := h
  simp [readCall, memberOf, hid, htype, hfn, hname, harguments, ToolCall.read]

theorem map_readCall_written : ∀ {calls : List ToolCall} {js : List Json}, List.Forall₂ ToolCall.Written calls js →
    js.map readCall = calls.map ToolCall.read
  | [], _, .nil => rfl
  | c :: calls, _, .cons h hs => by
    rw [List.map_cons, List.map_cons, readCall_written h, map_readCall_written hs]

/-! ## The single answer of Ollama's dialect -/

/-- The text a member gives to a reader. -/
theorem TextMember.read {kvs : Obj} {k s : String} (h : TextMember kvs k s) :
    (match memberOf k (.obj kvs) with
      | .str s => s
      | _ => "") = s := by
  rcases h with h | ⟨rfl, h | h⟩ <;> simp [memberOf, h]

theorem doneReason_written {kvs : Obj} {s : String} (h : TextMember kvs "finish_reason" s) :
    ollamaDoneReason ((Dict.get? kvs "finish_reason").getD .null) = ollamaDoneReason (.str s) := by
  rcases h with h | ⟨rfl, h | h⟩ <;> rw [h] <;> rfl

theorem toolCallsIn_written {kvs message : Obj} {calls : List ToolCall} (hmessage : Dict.get? kvs "message" = some (.obj message))
    (h : ListMember ToolCall.Written message "tool_calls" calls) : toolCallsIn (.obj kvs) = calls.map ToolCall.read := by
  unfold toolCallsIn
  rcases h with ⟨js, h, hjs⟩ | ⟨rfl, h | h⟩
  · simp [memberOf, hmessage, h, map_readCall_written hjs]
  · simp [memberOf, hmessage, h]
  · simp [memberOf, hmessage, h]

/-- What reads the generated text of a reply. -/
def generatedOf (isChat : Bool) : Json → Except PyErr (String × Json) := if isChat then firstMessage else firstText

/-- The answer to a reply has what was generated, how it ended and its counts. -/
structure SingleAnswer (r : EngineReply) (isChat : Bool) (answer : Json) : Prop where
  text : frameText isChat answer = r.text
  doneReason : memberOf "done_reason" answer = .str (ollamaDoneReason (.str r.finish))
  promptEvalCount : memberOf "prompt_eval_count" answer = .int r.promptTokens
  evalCount : memberOf "eval_count" answer = .int r.completionTokens
  toolCalls : toolCallsIn answer = r.calls.map ToolCall.read

/-- The answer to a reply, member by member. -/
theorem ollamaReply_of_written {r : EngineReply} {isChat : Bool} {kvs choice : Obj} {rest : List Json}
    (hchoices : Dict.get? kvs "choices" = some (.arr (.obj choice :: rest)))
    (hfinish : TextMember choice "finish_reason" r.finish) (husage : UsageMember kvs r.promptTokens r.completionTokens)
    {member : String} {value : Json} (hgen : generatedOf isChat (.arr (.obj choice :: rest)) = .ok (member, value))
    (modelName : Json) : ollamaReply (generatedOf isChat) modelName (.obj (Dict.erase kvs "dio")) =
      .ok (.obj [("model", modelName.orElse (.str "dio-default")), (member, value), ("done", .bool true),
        ("done_reason", .str (ollamaDoneReason (.str r.finish))), ("load_duration", .int 1000000),
        ("prompt_eval_count", .int r.promptTokens), ("eval_count", .int r.completionTokens)]) := by
  obtain ⟨usage, husage, hprompt, hcompletion, -⟩ := husage
  have hget : ∀ {k}, k ≠ "dio" → Dict.get? (Dict.erase kvs "dio") k = Dict.get? kvs k := fun h =>
    Dict.get?_erase_ne (Ne.symm h) kvs
  have hreason : doneReason (.arr (.obj choice :: rest)) = .ok (ollamaDoneReason (.str r.finish)) := by
    rw [← doneReason_written hfinish]
    rfl
  have hlist : (Json.arr (.obj choice :: rest)).orElse (.arr []) = .arr (.obj choice :: rest) := rfl
  unfold ollamaReply
  rw [Json.get_obj, hget (by decide), hchoices, Json.get_obj, hget (by decide), husage]
  simp only [Option.getD_some, ok_bind, hlist, hgen, hreason, orElse_obj, Json.getD_obj, hprompt, hcompletion]
  rfl

theorem ollamaReply_written {r : EngineReply} {isChat : Bool} {kvs : Obj} (h : r.Written isChat (.obj kvs))
    {modelName answer : Json} (hanswer : ollamaReply (generatedOf isChat) modelName (.obj (Dict.erase kvs "dio")) = .ok answer) :
    SingleAnswer r isChat answer := by
  obtain ⟨_, choice, rest, hkvs, hchoices, hfinish, hgen, husage⟩ := h
  cases hkvs
  unfold EngineReply.Generated at hgen
  cases isChat with
  | true =>
    obtain ⟨message, hmessage, htext, hcalls⟩ := hgen
    have hread : generatedOf true (.arr (.obj choice :: rest)) = .ok ("message", .obj message) := by
      show firstMessage (.arr (.obj choice :: rest)) = _
      simp [firstMessage, Json.truthy, Json.head, hasMember, Dict.contains, item, hmessage, ok_bind]
    rw [ollamaReply_of_written hchoices hfinish husage hread] at hanswer
    cases hanswer
    exact ⟨htext.read, rfl, rfl, rfl, toolCallsIn_written rfl hcalls⟩
  | false =>
    obtain ⟨htext, hcalls⟩ := hgen
    have hread : generatedOf false (.arr (.obj choice :: rest)) = .ok ("response", .str r.text) := by
      show firstText (.arr (.obj choice :: rest)) = _
      simp [firstText, Json.truthy, Json.head, htext, ok_bind]
    rw [ollamaReply_of_written hchoices hfinish husage hread] at hanswer
    cases hanswer
    exact ⟨rfl, rfl, rfl, rfl, by rw [hcalls]; rfl⟩

theorem UsageMember.readable {kvs : Obj} {prompt completion : Int} (h : UsageMember kvs prompt completion) :
    UsageReadable kvs ["total_tokens", "completion_tokens"] := by
  obtain ⟨usage, husage, -, hcompletion, htotal⟩ := h
  refine .inr ⟨usage, husage, fun k hk => ?_⟩
  simp only [List.mem_cons, List.not_mem_nil, or_false] at hk
  rcases hk with rfl | rfl
  · rcases htotal with h | h
    · exact .inr (.inl h)
    · exact .inl h
  · exact .inl ⟨_, hcompletion⟩

theorem CountMember.toInt {usage : Obj} {k : String} (h : CountMember usage k) (U : Unicode)
    (hgiven : ((Dict.get? usage k).getD .null).truthy = true) : ∃ n, ((Dict.get? usage k).getD .null).toInt U = .ok n := by
  rcases h with ⟨n, h⟩ | h | h <;> rw [h] at hgiven ⊢
  · exact ⟨n, rfl⟩
  · cases hgiven
  · cases hgiven

/-- The token count of a readable usage block. -/
theorem reportedTokens_readable {G : DioGateway K} {kvs : Obj}
    (h : UsageReadable kvs ["total_tokens", "completion_tokens"]) (text : String) :
    ∃ n, reportedTokens G text (.obj kvs) = .ok n := by
  unfold reportedTokens
  dsimp only
  rcases h with h | ⟨usage, husage, hcounts⟩
  · refine ⟨none, ?_⟩
    rcases h with h | h <;> rw [h] <;> rfl
  · simp only [husage, Option.getD_some, orElse_obj, ok_bind, Json.get_obj]
    split
    · rename_i ht
      obtain ⟨n, hn⟩ := (hcounts "total_tokens" (.head _)).toInt G.U ht
      exact ⟨some n, by rw [hn]; rfl⟩
    · split
      · rename_i hc
        obtain ⟨n, hn⟩ := (hcounts "completion_tokens" (.tail _ (.head _))).toInt G.U hc
        exact ⟨some (max 1 (text.length / 4 : Int) + n), by rw [hn]; rfl⟩
      · exact ⟨none, rfl⟩

/-- When every tool call has an id, the last frame has the tool calls of the answer. -/
theorem EndsAs.toolCalls_of_ids {r : EngineReply} {isChat : Bool} {final answer : Json} (h : EndsAs final answer)
    (ha : SingleAnswer r isChat answer) (hids : ∀ c ∈ r.calls, c.id ≠ "") : toolCallsIn final = toolCallsIn answer := by
  rw [h.toolCalls, ha.toolCalls]
  refine List.ext_getElem (by simp) fun i _ _ => ?_
  simp [withId_of_id (hids _ (List.getElem_mem _))]

/-! ## Parity -/

theorem textOf_frames {r : EngineReply} {p : TranslParams} {st : Transl} (h : Translated r p st) :
    textOf p.isChat (st.out ++ [finalFrame p st]) = r.text := by
  rw [textOf_concat, frameText_finalFrame, String.append_empty, h.text]

/-- The last frame of a streamed reply and the single answer to it. -/
theorem Translated.endsAs {r : EngineReply} {p : TranslParams} {st : Transl} (h : Translated r p st) {answer : Json}
    (ha : SingleAnswer r p.isChat answer) (hcalls : p.isChat = false → r.calls = []) : EndsAs (finalFrame p st) answer := by
  refine ⟨?_, ?_, ?_, ?_⟩
  · rw [ha.doneReason, ← h.reason]
    rfl
  · rw [ha.promptEvalCount]
    show Json.int (st.reportedPrompt.getD p.promptOnly) = _
    rw [h.prompt, Option.getD_some]
  · rw [ha.evalCount]
    show Json.int (st.reportedGen.getD st.genTokens) = _
    rw [h.completion, Option.getD_some]
  · rw [toolCallsIn_finalFrame, ha.toolCalls]
    split
    · rw [h.calls]
      refine List.ext_getElem (by simp) fun i _ _ => ?_
      simp [readCall_delta]
    · rename_i hchat
      rw [hcalls (by simpa using hchat)]
      rfl

section Parity

variable [Field K] [LinearOrder K] [FloorRing K]

/-- `/api/chat` or `/api/generate`. -/
def dialect (isChat : Bool) : Endpoint := if isChat then .ollamaChat else .ollamaGenerate

/-- The two paths of an Ollama endpoint, when it answers with a stream or after a call. -/
theorem dialect_reply {G : DioGateway K} {isChat : Bool} {body : Obj} {t : List (Event (sig K))} {reply : Reply K}
    (h : ((dialect isChat).handle G body).Exec t (.ok reply)) :
    (t = [] ∧ ∃ r, reply = .json r) ∨ ∃ body' allowed,
      (proxyOllamaStream G (Dict.set body' "stream" (.bool true)) (dialect isChat).path "small" isChat allowed).Exec t (.ok reply) ∨
        (ollamaJson G (generatedOf isChat) body' (dialect isChat).path (modelHint body) allowed).Exec t (.ok reply) := by
  have hcases : ∀ {path toOpenai}, (ollamaEndpoint G path isChat toOpenai (generatedOf isChat) body).Exec t (.ok reply) →
      (t = [] ∧ ∃ r, reply = .json r) ∨ ∃ body' allowed,
        (proxyOllamaStream G (Dict.set body' "stream" (.bool true)) path "small" isChat allowed).Exec t (.ok reply) ∨
          (ollamaJson G (generatedOf isChat) body' path (modelHint body) allowed).Exec t (.ok reply) := by
    intro path toOpenai h
    rcases ollamaEndpoint_cases G path isChat toOpenai (generatedOf isChat) body with
      ⟨p, hp, heq⟩ | ⟨body', allowed, -, -, -, -, -, heq⟩
    · rw [heq] at h
      obtain ⟨r, t₁, t₂, h1, ⟨rfl, hr⟩, rfl⟩ := Prog.exec_bind_ok h
      cases hr
      exact .inl ⟨by rw [List.append_nil]; exact hp.eq_nil h1, r, rfl⟩
    · rw [heq] at h
      refine .inr ⟨body', allowed, ?_⟩
      split at h
      · exact .inl h
      · exact .inr h
  cases isChat with
  | true => exact hcases h
  | false => exact hcases h

/-- The single answer of an Ollama endpoint: an error as it is, or the translated reply. -/
theorem ollamaJson_reply {G : DioGateway K} {generated : Json → Except PyErr (String × Json)} {body : Obj} {path : Path}
    {modelName : Json} {allowed : Option (List String)} {t : List (Event (sig K))} {reply : Reply K}
    (h : (ollamaJson G generated body path modelName allowed).Exec t (.ok reply)) :
    ∃ resp answer, (proxyJson G body path "small" allowed).Exec t (.ok resp) ∧ reply = .json answer ∧
      (resp.status < 400 → ollamaReply generated modelName resp.content = .ok answer.content) := by
  obtain ⟨resp, t₁, t₂, h1, h2, rfl⟩ := Prog.exec_bind_ok h
  refine ⟨resp, ?_⟩
  split at h2
  · rename_i herror
    obtain ⟨rfl, hr⟩ := h2
    cases hr
    exact ⟨resp, by rw [List.append_nil]; exact h1, rfl, fun h => by omega⟩
  · obtain ⟨content, t₃, t₄, h3, h4, rfl⟩ := Prog.exec_bind_ok h2
    obtain ⟨rfl, hcontent⟩ := (exec_py _ _ _).1 h3
    obtain ⟨answer, t₅, t₆, h5, ⟨rfl, hr⟩, rfl⟩ := Prog.exec_bind_ok h4
    cases hr
    have hnone : t₅ = [] := silent_jsonResponse.eq_nil h5
    subst hnone
    refine ⟨answer, by simpa using h1, rfl, fun _ => ?_⟩
    rw [jsonResponse_ok h5]
    exact ok_of_mapError hcontent.symm

/-- The endpoint streamed the reply to a client that read the frames to the end; `u` is what happened
after its chunks came. -/
def StreamedAs (G : DioGateway K) (isChat : Bool) (r : EngineReply) (u : List (Event (sig K))) : Prop :=
  ∃ body t mediaType headers gen chunks x,
    ((dialect isChat).handle G body).Exec t (.ok (.stream 200 mediaType headers gen)) ∧ r.Delivered isChat chunks ∧
      gen.Exec (⟨.aiterBytes, chunks⟩ :: u) x ∧ ∀ frame, ⟨.yield frame, .close⟩ ∉ u

/-- The endpoint answered at once, with the reply of an OpenAI engine before it. -/
def AnsweredAs (G : DioGateway K) (isChat : Bool) (r : EngineReply) (resp : JsonResponse K) : Prop :=
  ∃ (body : Obj) (t : List (Event (sig K))) (a : PickArgs) (w : String) (d : RoutingDecision K) (b : Backend)
    (request : HttpRequest) (up : UpstreamResponse) (data : Json),
    ((dialect isChat).handle G body).Exec t (.ok (.json resp)) ∧ ⟨.pick a, .ok (w, d)⟩ ∈ t ∧ G.pool.get? w = some b ∧
      b.apiStyle ≠ .tgiGenerate ∧ ⟨.post .first request, Outcome.returned up⟩ ∈ t ∧ up.status < 400 ∧
      up.json = some data ∧ r.Written isChat data

theorem StreamedAs.translated {G : DioGateway K} (hU : G.U.SpacesOnAscii) {isChat : Bool} {r : EngineReply}
    {u : List (Event (sig K))} (h : StreamedAs G isChat r u) :
    ∃ p st, p.isChat = isChat ∧ Translated r p st ∧ yielded u = st.out ++ [finalFrame p st] := by
  obtain ⟨body, t, mediaType, headers, gen, chunks, x, hopened, hdelivered, hgen, hread⟩ := h
  rcases dialect_reply hopened with ⟨-, _, he⟩ | ⟨body', allowed, h | h⟩
  · cases he
  · obtain ⟨status, _, _, _, hreply, hgenerator⟩ := proxyOllamaStream_reply h
    cases hreply
    obtain ⟨prompt, w, t0, tokens, rfl⟩ := hgenerator rfl
    obtain ⟨st, hst, hyielded⟩ := yielded_ollamaGen hU (r := r) hdelivered hgen hread
    exact ⟨_, st, rfl, hst, hyielded⟩
  · obtain ⟨_, _, -, he, -⟩ := ollamaJson_reply h
    cases he

theorem AnsweredAs.single {G : DioGateway K} {isChat : Bool} {r : EngineReply} {resp : JsonResponse K}
    (h : AnsweredAs G isChat r resp) : SingleAnswer r isChat resp.content ∧ (isChat = false → r.calls = []) := by
  obtain ⟨body, t, a, w, d, b, request, up, data, hanswered, hpick, hb, hstyle, hpost, hok, hjson, hwritten⟩ := h
  constructor
  · obtain ⟨kvs, choice, rest, rfl, hrest⟩ := hwritten
    rcases dialect_reply hanswered with ⟨rfl, -⟩ | ⟨body', allowed, h | h⟩
    · cases hpick
    · obtain ⟨_, _, _, _, hreply, -⟩ := proxyOllamaStream_reply h
      cases hreply
    · obtain ⟨resp₁, answer, h1, hreply, hcontent⟩ := ollamaJson_reply h
      cases hreply
      obtain ⟨hstatus, hc⟩ := proxyJson_answer h1 hpick hb hstyle hpost hok hjson (reportedTokens_readable hrest.2.2.2.readable)
      rw [hc] at hcontent
      exact ollamaReply_written ⟨kvs, choice, rest, rfl, hrest⟩ (hcontent (by omega))
  · obtain ⟨_, _, _, -, -, -, hgenerated, -⟩ := hwritten
    rintro rfl
    exact hgenerated.2

/-- Whatever way an OpenAI engine streams a reply in whole lines without cutting a character, the frames
a client reads to the end have the reply's text, and the last of them ends as the single answer to
the same reply does; a tool call whose id is empty is given one by its index. -/
theorem ollama_stream_ends_as_answer (G : DioGateway K) (hU : G.U.SpacesOnAscii) (isChat : Bool) (r : EngineReply)
    {u : List (Event (sig K))} (hstreamed : StreamedAs G isChat r u) {resp : JsonResponse K}
    (hanswered : AnsweredAs G isChat r resp) :
    ∃ init final, yielded u = init ++ [final] ∧ textOf isChat (yielded u) = r.text ∧ EndsAs final resp.content := by
  obtain ⟨p, st, rfl, hst, hyielded⟩ := hstreamed.translated hU
  obtain ⟨hanswer, hcalls⟩ := hanswered.single
  exact ⟨st.out, finalFrame p st, hyielded, hyielded ▸ textOf_frames hst, hst.endsAs hanswer hcalls⟩

end Parity

/-! ## A reply with one tool call -/

/-- A text and a call of `f` with the id `id`. -/
def oneCall (id : String) : EngineReply := ⟨"ok", [⟨id, "f", "x", by decide⟩], "tool_calls", 3, 2⟩

def oneUsage : Json := .obj [("prompt_tokens", .int 3), ("completion_tokens", .int 2)]

/-- The function of the call. -/
def calledF : Json := .obj [("name", .str "f"), ("arguments", .str "x")]

/-- The reply as one answer. -/
def oneAnswer (id : String) : Json :=
  .obj [("choices", .arr [.obj [("message", .obj [("content", .str "ok"),
      ("tool_calls", .arr [.obj [("id", .str id), ("type", .str "function"), ("function", calledF)]])]),
    ("finish_reason", .str "tool_calls")]]), ("usage", oneUsage)]

/-- The reply as one event. -/
def oneEvent (id : String) : Json :=
  .obj [("choices", .arr [.obj [("delta", .obj [("content", .str "ok"),
      ("tool_calls", .arr [.obj [("index", .int 0), ("id", .str id), ("function", calledF)]])]),
    ("finish_reason", .str "tool_calls")]])]

def oneUsageEvent : Json := .obj [("choices", .arr []), ("usage", oneUsage)]

def oneEventText (id : String) : List Char :=
  "\x7b\"choices\":[\x7b\"delta\":\x7b\"content\":\"ok\",\"tool_calls\":[\x7b\"index\":0,\"id\":\"".toList ++ (id.toList ++
    "\",\"function\":\x7b\"name\":\"f\",\"arguments\":\"x\"\x7d\x7d]\x7d,\"finish_reason\":\"tool_calls\"\x7d]\x7d".toList)

def oneUsageText : List Char :=
  "\x7b\"choices\":[],\"usage\":\x7b\"prompt_tokens\":3,\"completion_tokens\":2\x7d\x7d".toList

/-- The lines of the streamed reply. -/
def oneLines (id : String) : List (List Char) :=
  [oneEventText id, oneUsageText, "[DONE]".toList].map ("data:".toList ++ ·)

/-- The streamed reply, delivered at once. -/
def oneDelivery (id : String) : List (List UInt8) := [ascii (String.ofList (Text.Lines.unlines (oneLines id)))]

theorem written_oneAnswer (id : String) : (oneCall id).Written true (oneAnswer id) :=
  ⟨_, _, _, rfl, rfl, .inl rfl,
    ⟨_, rfl, .inl rfl, .inl ⟨_, rfl, .cons ⟨_, _, rfl, rfl, rfl, rfl, rfl, rfl⟩ .nil⟩⟩, ⟨_, rfl, rfl, rfl, .inl rfl⟩⟩

theorem streamed_oneCall (id : String) : (oneCall id).Streamed true [oneEvent id, oneUsageEvent] := by
  refine ⟨[], ⟨"ok", [⟨0, id, "f", "x"⟩], "tool_calls"⟩, [oneEvent id], oneUsageEvent, ⟨rfl, ⟨?_, ?_⟩, by simp, rfl⟩, ?_,
    ⟨_, rfl, ⟨_, rfl, rfl, rfl, .inl rfl⟩, rfl⟩, rfl⟩
  · intro f hf
    cases List.mem_singleton.1 hf
    exact Nat.zero_lt_one
  · intro i c hi
    cases i with
    | zero => cases hi; exact ⟨rfl, rfl, by simp, rfl⟩
    | succ => cases hi
  · exact .cons ⟨_, _, _, rfl, .inl rfl, rfl, .inl rfl, ⟨_, rfl, .inl rfl, .inl ⟨_, rfl, .cons
      ⟨_, _, rfl, rfl, .inl rfl, rfl, .inl rfl, .inl rfl⟩ .nil⟩⟩⟩ .nil

theorem objectText_oneEvent {id : String} (hid : id = "c0" ∨ id = "") : ObjectText (oneEvent id) (oneEventText id) := by
  unfold oneEventText
  -- the literals as lists first: the kernel is slow to read a string
  rw [String.toList_ofList, String.toList_ofList]
  rcases hid with rfl | rfl <;> rw [String.toList_ofList] <;>
    exact ⟨by decide +kernel, by decide +kernel, loads_of_beq (by decide +kernel)⟩

theorem objectText_oneUsageEvent : ObjectText oneUsageEvent oneUsageText := by
  unfold oneUsageText
  rw [String.toList_ofList]
  exact ⟨by decide +kernel, by decide +kernel, loads_of_beq (by decide +kernel)⟩

theorem plainLines_oneLines {id : String} (hid : id = "c0" ∨ id = "") : PlainLines (oneLines id) := by
  apply plainLines_of_all
  unfold oneLines oneEventText oneUsageText
  rw [String.toList_ofList, String.toList_ofList, String.toList_ofList, String.toList_ofList, String.toList_ofList]
  rcases hid with rfl | rfl <;> rw [String.toList_ofList] <;> decide +kernel

theorem delivered_oneCall {id : String} (hid : id = "c0" ∨ id = "") : (oneCall id).Delivered true (oneDelivery id) := by
  have hplain := plainLines_oneLines hid
  have hline : ∀ data : List Char, DataLine data ("data:".toList ++ data) := fun data =>
    ⟨[], [], nofun, nofun, by rw [List.nil_append, List.append_nil]⟩
  have huncut : Text.Utf8.decodeChunks (oneDelivery id) = Text.Utf8.decode (oneDelivery id).flatten := by
    simp [Text.Utf8.decodeChunks, oneDelivery]
  refine ⟨(Text.Utf8.decodeChunks_eq_iff _).1 huncut, oneLines id, _, huncut ▸ decodeChunks_atOnce hplain,
    fun l hl hn => (hplain l hl _ hn).1 rfl, .event (objectText_oneEvent hid) (hline _)
      (.event objectText_oneUsageEvent (hline _) (.done (hline _))), streamed_oneCall id⟩

/-- A chat with one message. -/
def sayHi (stream : Bool) : Obj :=
  [("messages", .arr [.obj [("role", .str "user"), ("content", .str "hi")]]), ("stream", .bool stream)]

/-- The reply is a stream that opened. -/
def isOpened : Except Exn (Reply ℚ) → Bool
  | .ok (.stream 200 _ _ _) => true
  | _ => false

/-- The reply is an answer. -/
def isAnswer : Except Exn (Reply ℚ) → Bool
  | .ok (.json _) => true
  | _ => false

/-- The call that forwards a request. -/
def Call.posts : Call K → Bool
  | .post .first _ => true
  | _ => false

/-- A stream is read to its end by some consumer. -/
theorem exists_read (G : DioGateway ℚ) (w : String) (t0 : ℚ) (tokens : Int) (p : TranslParams) (chunks : List (List UInt8)) :
    ∃ u x, (ollamaGen G w t0 tokens p).Exec (⟨.aiterBytes, chunks⟩ :: u) x ∧ ∀ frame, ⟨.yield frame, .close⟩ ∉ u := by
  obtain ⟨u, x, h, -, henv⟩ := Prog.exists_exec (S := sig ℚ) (Answers.env {})
    (p := relayed w t0 tokens (translateChunks G p Transl.fresh chunks) (finishOllama p) ndjsonReport) (fun _ _ => True) trivial
  exact ⟨u, x, exec_ollamaGen.2 h, fun frame hframe => nomatch henv _ hframe⟩

theorem streamedAs_oneCall {id : String} (hid : id = "c0" ∨ id = "") : ∃ u, StreamedAs oneBackend true (oneCall id) u := by
  obtain ⟨t, x, hopened, hstream, -⟩ := Prog.exists_exec (Answers.env {})
    (p := (dialect true).handle oneBackend (sayHi true)) (fun _ x => isOpened x = true) (by decide +kernel)
  unfold isOpened at hstream
  split at hstream
  · rename_i mediaType headers gen
    rcases dialect_reply hopened with ⟨-, _, he⟩ | ⟨body', allowed, h | h⟩
    · cases he
    · obtain ⟨status, _, _, _, hreply, hgenerator⟩ := proxyOllamaStream_reply h
      cases hreply
      obtain ⟨prompt, w, t0, tokens, rfl⟩ := hgenerator rfl
      obtain ⟨u, y, hgen, hread⟩ := exists_read oneBackend w t0 tokens _ (oneDelivery id)
      exact ⟨u, sayHi true, t, mediaType, headers, _, _, y, hopened, delivered_oneCall hid, hgen, hread⟩
    · obtain ⟨_, _, -, he, -⟩ := ollamaJson_reply h
      cases he
  · cases hstream

/-- The engine answers with `data`. -/
def answering (data : Json) : Answers := { post := .returned ⟨200, some data, ""⟩ }

theorem answeredAs_oneCall {id : String} (hid : id = "c0" ∨ id = "") :
    ∃ resp, AnsweredAs oneBackend true (oneCall id) resp := by
  obtain ⟨t, x, hexec, ⟨hreply, hpicks, hposts⟩, henv⟩ := Prog.exists_exec (answering (oneAnswer id)).env
    (p := (dialect true).handle oneBackend (sayHi false))
    (fun t x => isAnswer x = true ∧ (t.any fun ev => !Call.pickless ev.op) = true ∧ (t.any fun ev => Call.posts ev.op) = true)
    (by rcases hid with rfl | rfl <;> decide +kernel)
  -- the calls answered: a worker picked, and the request sent to it
  obtain ⟨a, hpick⟩ : ∃ a, ⟨.pick a, .ok ("gpu0", decisionOn)⟩ ∈ t := by
    obtain ⟨op, hop, hev⟩ := Prog.exists_answered (fun op => !Call.pickless op) henv hpicks
    cases op <;> cases hop
    exact ⟨_, hev⟩
  obtain ⟨request, hpost⟩ : ∃ request, ⟨.post .first request, .returned ⟨200, some (oneAnswer id), ""⟩⟩ ∈ t := by
    obtain ⟨op, hop, hev⟩ := Prog.exists_answered Call.posts henv hposts
    unfold Call.posts at hop
    split at hop
    · exact ⟨_, hev⟩
    · cases hop
  unfold isAnswer at hreply
  split at hreply
  · rename_i resp
    exact ⟨resp, sayHi false, t, a, "gpu0", decisionOn, { id := "gpu0", baseUrl := "http://a" }, request, _, oneAnswer id,
      hexec, hpick, rfl, by decide, hpost, Nat.lt_of_lt_of_le (by decide : 200 < 400) (Nat.le_refl _), rfl, written_oneAnswer id⟩
  · cases hreply

/-- The tool call that has an id is the same in both. -/
theorem ollama_stream_ends_as_answer_c0 : ∃ u resp init final, StreamedAs oneBackend true (oneCall "c0") u ∧
    AnsweredAs oneBackend true (oneCall "c0") resp ∧ yielded u = init ++ [final] ∧ textOf true (yielded u) = "ok" ∧
      EndsAs final resp.content ∧ toolCallsIn final = toolCallsIn resp.content := by
  obtain ⟨u, hu⟩ := streamedAs_oneCall (.inl rfl)
  obtain ⟨resp, hresp⟩ := answeredAs_oneCall (.inl rfl)
  obtain ⟨init, final, hyielded, htext, hends⟩ :=
    ollama_stream_ends_as_answer oneBackend (fun _ _ => rfl) true (oneCall "c0") hu hresp
  refine ⟨u, resp, init, final, hu, hresp, hyielded, htext, hends, hends.toolCalls_of_ids hresp.single.1 fun c hc => ?_⟩
  cases List.mem_singleton.1 hc
  decide

/-- The tool call without an id is given one in the stream only. -/
theorem ollama_stream_names_call : ∃ u resp init final, StreamedAs oneBackend true (oneCall "") u ∧
    AnsweredAs oneBackend true (oneCall "") resp ∧ yielded u = init ++ [final] ∧
      toolCallsIn final ≠ toolCallsIn resp.content := by
  obtain ⟨u, hu⟩ := streamedAs_oneCall (.inr rfl)
  obtain ⟨resp, hresp⟩ := answeredAs_oneCall (.inr rfl)
  obtain ⟨p, st, hchat, hst, hyielded⟩ := hu.translated fun _ _ => rfl
  obtain ⟨hanswer, hcalls⟩ := hresp.single
  refine ⟨u, resp, st.out, finalFrame p st, hu, hresp, hyielded, ?_⟩
  rw [toolCallsIn_finalFrame, hanswer.toolCalls, if_pos hchat, hst.calls]
  intro heq
  have hids : [Json.str s!"call_{(0 : Int)}"] = [Json.str ""] := congrArg (List.map ReadCall.id) heq
  exact absurd (Json.str.inj (List.cons.inj hids).1) (by decide)

end Dio.Gateway
