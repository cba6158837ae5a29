/-
Tool calls in a translated stream (`_proxy_ollama_stream`, `_ollama_tool_call_deltas`). Every fragment
yields all the calls there are so far and the closing frame yields them again, so no call is in one
frame only: one that grows is in frames before it is finished, and the finished one is in two.
-/
import DioServe.Gateway.BrokenStream

namespace Dio.Gateway

open Data Py Effect Scheduler Text.Lines Text.Utf8

variable {K : Type}

/-! ## Chat streams -/

/-- An event of a chat stream: a piece in its first choice, or no choices and nothing generated. -/
def ChatEvent (d : Delta) (event : Json) : Prop :=
  ∃ kvs, event = .obj kvs ∧ UsageReadable kvs ["prompt_tokens", "completion_tokens"] ∧
    ((∃ choice rest, Dict.get? kvs "choices" = some (.arr (.obj choice :: rest)) ∧
        TextMember choice "finish_reason" d.finish ∧ d.Generated true choice) ∨
      d = ⟨"", [], ""⟩ ∧ (Dict.get? kvs "choices" = some (.arr []) ∨ Dict.get? kvs "choices" = none ∨
        Dict.get? kvs "choices" = some .null))

/-- The lines of a chat stream and the pieces in it, up to `[DONE]` or to the last line; lines that hold
no JSON may stand anywhere. -/
inductive ChatLines (U : Unicode) : List (List Char) → List Delta → Prop
  | ended : ChatLines U [] []
  | done {line : List Char} {lines : List (List Char)} : dataOf U line = some "[DONE]".toList → ChatLines U (line :: lines) []
  | other {line : List Char} {lines : List (List Char)} {ds : List Delta} :
      (∀ data, dataOf U line = some data → data ≠ "[DONE]".toList ∧ ∃ e, loads (String.ofList data) = .error e) →
      ChatLines U lines ds → ChatLines U (line :: lines) ds
  | event {line data : List Char} {lines : List (List Char)} {d : Delta} {e : Json} {ds : List Delta} :
      dataOf U line = some data → loads (String.ofList data) = .ok e → ChatEvent d e → ChatLines U lines ds →
      ChatLines U (line :: lines) (d :: ds)

/-! ## The calls of a stream -/

/-- The last text that is given, `s` when none is. -/
def lastGiven (s : String) : List String → String
  | [] => s
  | t :: ts => lastGiven (if t = "" then s else t) ts

/-- The finished call of an index, as a client reads it: the id and the name last given, and its
arguments together. -/
def finishedCall (fs : List Fragment) (i : Nat) : ReadCall :=
  let own := fs.filter fun f => f.index = i
  ReadCall.withId i ⟨.str (lastGiven "" (own.map Fragment.id)), .str "function", .str (lastGiven "" (own.map Fragment.name)),
    .str (String.join (own.map Fragment.arguments))⟩

/-- One frame has the call, and no other frame one with its id. -/
def DeliveredOnce (call : ReadCall) (frames : List Json) : Prop :=
  ∃ before frame after, frames = before ++ frame :: after ∧ call ∈ toolCallsIn frame ∧
    ∀ other ∈ before ++ after, ∀ c ∈ toolCallsIn other, c.id ≠ call.id

/-- The stream is read to its end, by a consumer that reads every frame. -/
structure ReadOut (t : List (Event (sig K))) : Prop where
  frames : ∀ frame, ⟨.yield frame, .close⟩ ∉ t
  ended : ∀ r, ⟨.iterEnd, r⟩ ∈ t → r = .returned ()

/-- A slot with an id, a name and arguments, the id not yet given when it is empty. -/
def slotWith (id name arguments : String) : ToolSlot := ⟨if id = "" then .null else .str id, .str name, arguments⟩

theorem slotWith_add (id name arguments : String) (f : Fragment) :
    (slotWith id name arguments).add f =
      slotWith (if f.id = "" then id else f.id) (if f.name = "" then name else f.name) (arguments ++ f.arguments) := by
  by_cases hi : f.id = "" <;> by_cases hn : f.name = "" <;> simp [slotWith, ToolSlot.add, hi, hn]

theorem slotAfter_slotWith : ∀ (fs : List Fragment) (id name arguments : String),
    slotAfter (some (slotWith id name arguments)) fs =
      some (slotWith (lastGiven id (fs.map Fragment.id)) (lastGiven name (fs.map Fragment.name))
        (arguments ++ String.join (fs.map Fragment.arguments)))
  | [], id, name, arguments => by
    simp only [List.map_nil, String.join_nil, String.append_empty]
    rfl
  | f :: fs, id, name, arguments => by
    show slotAfter (some ((slotWith id name arguments).add f)) fs = _
    rw [slotWith_add, slotAfter_slotWith fs]
    simp only [List.map_cons, String.join_cons, String.append_assoc, lastGiven]

/-- The slot of an index that occurs. -/
theorem get?_slots {fs : List Fragment} {i : Nat} (h : i ∈ fs.map Fragment.index) :
    Dict.get? (fs.foldl addFragment []) (i : Int) =
      some (slotWith (lastGiven "" ((fs.filter fun f => f.index = i).map Fragment.id))
        (lastGiven "" ((fs.filter fun f => f.index = i).map Fragment.name))
        (String.join ((fs.filter fun f => f.index = i).map Fragment.arguments))) := by
  obtain ⟨g, hg, hgi⟩ := List.mem_map.1 h
  rw [get?_foldl_addFragment, Dict.get?_nil]
  simp only [Int.ofNat_inj]
  cases hown : fs.filter fun f => f.index = i with
  | nil => exact absurd (List.mem_filter.2 ⟨hg, by simpa using hgi⟩) (hown ▸ List.not_mem_nil)
  | cons f own =>
    have hfirst := slotAfter_slotWith (f :: own) "" "" ""
    rw [String.empty_append] at hfirst
    exact hfirst

theorem readCall_slotWith (i : Nat) (id name arguments : String) :
    readCall (toolCallDelta i (slotWith id name arguments)) =
      ReadCall.withId i ⟨.str id, .str "function", .str name, .str arguments⟩ := by
  have hid : (slotWith id name arguments).id.orElse (.str s!"call_{(i : Int)}") =
      (Json.str id).orElse (.str s!"call_{(i : Int)}") := by
    by_cases h : id = ""
    · rw [h]; rfl
    · rw [slotWith, if_neg h]
  show (⟨(slotWith id name arguments).id.orElse (.str s!"call_{(i : Int)}"), .str "function", .str name, .str arguments⟩ :
    ReadCall) = _
  rw [hid]
  rfl

/-! ## What a frame tells of a call -/

theorem mem_ollamaToolCallDeltas {acc : Dict Int ToolSlot} {j : Json} :
    j ∈ ollamaToolCallDeltas acc ↔ ∃ idx slot, Dict.get? acc idx = some slot ∧
      (slot.name.truthy = true ∨ slot.arguments ≠ "") ∧ toolCallDelta idx slot = j := by
  unfold ollamaToolCallDeltas
  simp only [List.mem_filterMap, Option.bind_eq_some_iff]
  constructor
  · rintro ⟨idx, -, slot, hslot, hj⟩
    split at hj
    · rename_i hgiven
      cases hj
      exact ⟨idx, slot, hslot, by simpa using hgiven, rfl⟩
    · cases hj
  · rintro ⟨idx, slot, hslot, hgiven, rfl⟩
    have hkey : idx ∈ acc.map Prod.fst := Dict.get?_isSome_iff.1 (by rw [hslot]; rfl)
    refine ⟨idx, (List.perm_insertionSort _ _).mem_iff.2 hkey, slot, hslot, ?_⟩
    rw [if_pos (by simpa using hgiven)]

theorem toolCallsIn_contentFrame (p : TranslParams) (text : Json) : toolCallsIn (contentFrame p text) = [] := by
  unfold contentFrame
  split <;> rfl

theorem toolCallsIn_toolFrame (p : TranslParams) (acc : Dict Int ToolSlot) :
    toolCallsIn (toolFrame p acc) = (ollamaToolCallDeltas acc).map readCall := rfl

/-- A call that is told of has a name or arguments. -/
def Told (frame : Json) : Prop := ∀ c ∈ toolCallsIn frame, c.name.truthy = true ∨ c.arguments ≠ .str ""

theorem told_deltas {acc : Dict Int ToolSlot} {c : ReadCall} (h : c ∈ (ollamaToolCallDeltas acc).map readCall) :
    c.name.truthy = true ∨ c.arguments ≠ .str "" := by
  obtain ⟨j, hj, rfl⟩ := List.mem_map.1 h
  obtain ⟨idx, slot, -, hgiven, rfl⟩ := mem_ollamaToolCallDeltas.1 hj
  exact hgiven.imp id fun hne heq => hne (Json.str.inj heq)

theorem framesHave_told (p : TranslParams) : FramesHave Told p where
  content text c hc := by rw [toolCallsIn_contentFrame] at hc; cases hc
  tool acc _ hc := told_deltas hc

theorem told_finalFrame (p : TranslParams) (st : Transl) : Told (finalFrame p st) := by
  intro c hc
  rw [toolCallsIn_finalFrame] at hc
  split at hc
  · exact told_deltas hc
  · cases hc

/-! ## The state after a chat stream -/

/-- The calls so far are in a frame. -/
def Shown (p : TranslParams) (st : Transl) : Prop := st.toolCalls = [] ∨ toolFrame p st.toolCalls ∈ st.out

variable {U : Unicode} {p : TranslParams}

theorem shown_addFragment (st : Transl) (f : Fragment) : Shown p (st.addFragment p f) :=
  .inr (List.mem_append_right _ (List.mem_singleton_self _))

theorem shown_foldl_addFragment : ∀ (fs : List Fragment) {st : Transl}, Shown p st →
    Shown p (fs.foldl (Transl.addFragment p) st)
  | [], _, h => h
  | f :: fs, st, _ => shown_foldl_addFragment fs (shown_addFragment st f)

theorem shown_addDelta {st : Transl} (h : Shown p st) (d : Delta) : Shown p (st.addDelta p d) := by
  unfold Transl.addDelta
  apply shown_foldl_addFragment _
  have hfinish : Shown p (if d.finish = "" then st else { st with lastFinish := .str d.finish }) := by
    split <;> exact h
  split
  · exact hfinish
  · exact hfinish.imp id fun hmem => List.mem_append_left _ hmem

/-- A readable usage block changes the counts only. -/
theorem onUsage_readable {kvs : Obj} (h : UsageReadable kvs ["prompt_tokens", "completion_tokens"]) (st : Transl) :
    ∃ prompt completion,
      onUsage U ((Dict.get? kvs "usage").getD .null) st =
        (.ok (), { st with reportedPrompt := prompt, reportedGen := completion }) := by
  rcases h with h | ⟨usage, h, hcounts⟩
  · refine ⟨st.reportedPrompt, st.reportedGen, ?_⟩
    rcases h with h | h <;> rw [h] <;> rfl
  · rw [h, Option.getD_some]
    cases usage with
    | nil => exact ⟨_, _, rfl⟩
    | cons m ms =>
      unfold onUsage
      rcases hcounts "prompt_tokens" (.head _) with ⟨n, hp⟩ | hp | hp <;>
        rcases hcounts "completion_tokens" (.tail _ (.head _)) with ⟨n', hc⟩ | hc | hc <;>
        simp only [hp, hc] <;> exact ⟨_, _, rfl⟩

/-- An event of a chat stream adds its piece. -/
theorem onEvent_chat (hchat : p.isChat = true) {d : Delta} {event : Json} (h : ChatEvent d event) (st : Transl) :
    ∃ prompt completion, (onEvent U p event st).2 =
      Transl.addDelta p { st with reportedPrompt := prompt, reportedGen := completion } d := by
  obtain ⟨kvs, rfl, hreadable, h⟩ := h
  obtain ⟨prompt, completion, husage⟩ := onUsage_readable (U := U) hreadable st
  refine ⟨prompt, completion, ?_⟩
  unfold onEvent
  rw [Json.get_obj, liftPy_ok_bind, bind_of_ok husage, Json.get_obj, liftPy_ok_bind]
  rcases h with ⟨choice, rest, hchoices, hfinish, hgen⟩ | ⟨rfl, hnone⟩
  · rw [hchoices]
    exact congrArg Prod.snd (onChoice_written hfinish (hchat ▸ hgen) _)
  · rcases hnone with hnone | hnone | hnone <;> rw [hnone] <;> rfl

/-- The end mark is no JSON. -/
theorem loads_done (e : Json) : loads (String.ofList "[DONE]".toList) ≠ .ok e := by
  have hno : (loads (String.ofList "[DONE]".toList)).toBool = false := by decide +kernel
  intro heq
  rw [heq] at hno
  cases hno

theorem onLine_done {line : List Char} (h : dataOf U line = some "[DONE]".toList) (st : Transl) :
    onLine U p st line = (st, true) := by
  obtain ⟨hlead, hdata⟩ := dataOf_eq_some.1 h
  unfold onLine
  dsimp only
  rw [if_pos hlead, if_pos hdata]

/-- A line that holds no JSON is skipped. -/
theorem onLine_skipped {line : List Char}
    (h : ∀ data, dataOf U line = some data → data ≠ "[DONE]".toList ∧ ∃ e, loads (String.ofList data) = .error e) (st : Transl) :
    onLine U p st line = (st, false) := by
  unfold onLine
  dsimp only
  by_cases hlead : "data:".toList.isPrefixOf (stripChars U line) = true
  · obtain ⟨hne, e, he⟩ := h _ (dataOf_eq_some.2 ⟨hlead, rfl⟩)
    rw [if_pos hlead, if_neg hne, he]
  · rw [if_neg hlead]

theorem onLine_event {line data : List Char} {e : Json} (h : dataOf U line = some data)
    (hloads : loads (String.ofList data) = .ok e) (st : Transl) : onLine U p st line = ((onEvent U p e st).2, false) := by
  have hne : data ≠ "[DONE]".toList := fun heq => loads_done e (heq ▸ hloads)
  obtain ⟨hlead, rfl⟩ := dataOf_eq_some.1 h
  unfold onLine
  dsimp only
  rw [if_pos hlead, if_neg hne, hloads]

/-- The lines of a chat stream add up the fragments of its calls, and the calls so far are in a frame. -/
theorem handle_chat (hchat : p.isChat = true) {ls : List (List Char)} {ds : List Delta} (h : ChatLines U ls ds) :
    ∀ st : Transl, Shown p st →
      (handle (onLine U p) st ls).1.toolCalls = (ds.flatMap Delta.fragments).foldl addFragment st.toolCalls ∧
        Shown p (handle (onLine U p) st ls).1 := by
  induction h with
  | ended => exact fun st hst => ⟨rfl, hst⟩
  | done hdata =>
    intro st hst
    rw [handle_cons_stop (onLine_done hdata st)]
    exact ⟨rfl, hst⟩
  | other hdata _ ih =>
    intro st hst
    rw [handle_cons_go (onLine_skipped hdata st)]
    exact ih st hst
  | @event line data lines d e ds hdata hloads hevent _ ih =>
    intro st hst
    obtain ⟨prompt, completion, hadd⟩ := onEvent_chat (U := U) hchat hevent st
    have hcounted : Shown p { st with reportedPrompt := prompt, reportedGen := completion } := hst
    rw [handle_cons_go (onLine_event hdata hloads st), hadd]
    obtain ⟨hcalls, hshown⟩ := ih _ (shown_addDelta hcounted d)
    refine ⟨?_, hshown⟩
    rw [hcalls, addDelta_toolCalls, List.flatMap_cons, List.foldl_append]

/-! ## Every call, more than once -/

/-- The finished call of a stream, if anything was given of it. -/
theorem finishedCall_mem {fs : List Fragment} {i : Nat} (hi : i ∈ fs.map Fragment.index)
    (hgiven : (finishedCall fs i).name ≠ .str "" ∨ (finishedCall fs i).arguments ≠ .str "") :
    finishedCall fs i ∈ (ollamaToolCallDeltas (fs.foldl addFragment [])).map readCall := by
  refine List.mem_map.2 ⟨_, mem_ollamaToolCallDeltas.2 ⟨i, _, get?_slots hi, ?_, rfl⟩, readCall_slotWith ..⟩
  refine hgiven.imp (fun hname => ?_) fun harguments heq => harguments (congrArg Json.str heq)
  simpa [slotWith, Json.truthy] using fun heq => hname (congrArg Json.str heq)

section Generator

variable [Field K] {G : DioGateway K} {w : String} {t0 : K} {tokens : Int} {chunks : List (List UInt8)} {ds : List Delta}
  {t : List (Event (sig K))} {x : Except Exn Unit}

/-- The frames of a chat stream end with all its calls, which a frame before had already. -/
theorem yielded_chat (hchat : p.isChat = true) (hstream : ChatLines G.U (lines (decodeChunks chunks)).1 ds)
    (h : (ollamaGen G w t0 tokens p).Exec (⟨.aiterBytes, chunks⟩ :: t) x) (hread : ReadOut t) :
    ∃ st, yielded t = st.out ++ [finalFrame p st] ∧ st.toolCalls = (ds.flatMap Delta.fragments).foldl addFragment [] ∧
      Shown p st ∧ ∀ frame ∈ st.out, Told frame := by
  obtain ⟨hcalls, hshown⟩ := handle_chat hchat hstream .init (.inl rfl)
  have hstate : (chunks.foldl (onChunk G.U p) Transl.fresh).state =
      (handle (onLine G.U p) .init (lines (decodeChunks chunks)).1).1 := by
    rw [foldl_onChunk, state_feed _ rfl]
    rfl
  refine ⟨_, yielded_read rfl h hread.frames (.inr hread.ended), ?_⟩
  rw [hstate]
  refine ⟨hcalls, hshown, ?_⟩
  rw [← hstate]
  refine foldl_onChunk_keeps G.U p (P := fun st => ∀ frame ∈ st.out, Told frame) ?_ chunks nofun
  intro event st hst frame hframe
  obtain ⟨new, hnew, hQ⟩ := adds_onEvent G.U (framesHave_told p) event st
  rw [hnew] at hframe
  exact (List.mem_append.1 hframe).elim (hst frame) (hQ frame)

end Generator

/-! ## A call in two fragments -/

/-- An event with a fragment of a tool call. -/
def fragmentEvent (kvs : Obj) : Json :=
  .obj [("choices", .arr [.obj [("delta", .obj [("tool_calls", .arr [.obj (("index", .int 0) :: kvs)])])]])]

theorem chatEvent_fragment {kvs : Obj} {f : Fragment} (hf : f.Written (.obj (("index", .int 0) :: kvs))) :
    ChatEvent ⟨"", [f], ""⟩ (fragmentEvent kvs) :=
  ⟨_, rfl, .inl (.inl rfl), .inl ⟨_, _, rfl, .inr ⟨rfl, .inl rfl⟩, _, rfl, .inr ⟨rfl, .inl rfl⟩, .inl ⟨_, rfl, .cons hf .nil⟩⟩⟩

def namedEvent : Json := fragmentEvent [("id", .str "c0"), ("function", .obj [("name", .str "f"), ("arguments", .str "x")])]

def restEvent : Json := fragmentEvent [("function", .obj [("arguments", .str "y")])]

def namedText : List Char :=
  "\x7b\"choices\":[\x7b\"delta\":\x7b\"tool_calls\":[\x7b\"index\":0,\"id\":\"c0\",\"function\":\x7b\"name\":\"f\",\"arguments\":\"x\"\x7d\x7d]\x7d\x7d]\x7d".toList

def restText : List Char :=
  "\x7b\"choices\":[\x7b\"delta\":\x7b\"tool_calls\":[\x7b\"index\":0,\"function\":\x7b\"arguments\":\"y\"\x7d\x7d]\x7d\x7d]\x7d".toList

def callLines : List (List Char) := [namedText, restText, "[DONE]".toList].map ("data:".toList ++ ·)

def callStream : List (List UInt8) := atOnce callLines

/-- Its two pieces. -/
def callDeltas : List Delta := [⟨"", [⟨0, "c0", "f", "x"⟩], ""⟩, ⟨"", [⟨0, "", "", "y"⟩], ""⟩]

theorem lines_callStream : lines (decodeChunks callStream) = (callLines, []) := by
  refine lines_atOnce (plainLines_of_all ?_)
  unfold callLines namedText restText
  -- the literals as lists first: the kernel is slow to read a string
  rw [String.toList_ofList, String.toList_ofList, String.toList_ofList, String.toList_ofList]
  decide +kernel

theorem dataOf_callLines : callLines.map (dataOf oneBackend.U) = [some namedText, some restText, some "[DONE]".toList] := by
  unfold callLines namedText restText dataOf
  decide +kernel

theorem loads_callTexts : loads (String.ofList namedText) = .ok namedEvent ∧ loads (String.ofList restText) = .ok restEvent := by
  unfold namedText restText
  rw [String.toList_ofList, String.toList_ofList]
  exact ⟨loads_of_beq (by decide +kernel), loads_of_beq (by decide +kernel)⟩

theorem chatEvents_call : ChatEvent ⟨"", [⟨0, "c0", "f", "x"⟩], ""⟩ namedEvent ∧ ChatEvent ⟨"", [⟨0, "", "", "y"⟩], ""⟩ restEvent := by
  constructor
  · exact chatEvent_fragment ⟨_, _, rfl, rfl, .inl rfl, rfl, .inl rfl, .inl rfl⟩
  · exact chatEvent_fragment ⟨_, _, rfl, rfl, .inr ⟨rfl, .inl rfl⟩, rfl, .inr ⟨rfl, .inl rfl⟩, .inl rfl⟩

theorem chatLines_callStream : ChatLines oneBackend.U (lines (decodeChunks callStream)).1 callDeltas := by
  have hdata := dataOf_callLines
  rw [lines_callStream]
  simp only [callLines, List.map_cons, List.map_nil, List.cons.injEq] at hdata ⊢
  obtain ⟨hnamed, hrest, hdone, -⟩ := hdata
  exact .event hnamed loads_callTexts.1 chatEvents_call.1 (.event hrest loads_callTexts.2 chatEvents_call.2 (.done hdone))

/-- Its events add their pieces to the translation, one after the other. -/
theorem state_callStream : (callStream.foldl (onChunk oneBackend.U chatParams) Transl.fresh).state =
    callDeltas.foldl (Transl.addDelta chatParams) .init := by
  have hnamed : (onEvent oneBackend.U chatParams namedEvent .init).2 =
      Transl.addDelta chatParams .init ⟨"", [⟨0, "c0", "f", "x"⟩], ""⟩ := rfl
  have hrest : (onEvent oneBackend.U chatParams restEvent (Transl.addDelta chatParams .init ⟨"", [⟨0, "c0", "f", "x"⟩], ""⟩)).2 =
      callDeltas.foldl (Transl.addDelta chatParams) .init := rfl
  have hfresh : Transl.fresh = ⟨.init, [], false⟩ := rfl
  have hdata := dataOf_callLines
  rw [foldl_onChunk, state_feed _ rfl, hfresh, List.nil_append, lines_callStream]
  simp only [callLines, List.map_cons, List.map_nil, List.cons.injEq] at hdata ⊢
  obtain ⟨hfirst, hsecond, hdone, -⟩ := hdata
  rw [handle_cons_go (onLine_event hfirst loads_callTexts.1 _), hnamed,
    handle_cons_go (onLine_event hsecond loads_callTexts.2 _), hrest, handle_cons_stop (onLine_done hdone _)]

/-- A client that reads a stream to its end. -/
theorem readOut_translated (chunks : List (List UInt8)) : ReadOut (translated chunks).1 where
  frames _ hmem := nomatch Prog.mem_run _ hmem
  ended r hmem := by
    cases r with
    | returned _ => rfl
    | raised _ => cases Prog.mem_run _ hmem
    | cancelled => cases Prog.mem_run _ hmem

/-- The frames with a call of a client's id. -/
def framesWith (id : String) (t : List (Event (sig K))) : List Json :=
  (yielded t).filter fun frame => (toolCallsIn frame).any fun c => c.id.beq (.str id)

/-- A call delivered once is in one frame only. -/
theorem DeliveredOnce.framesWith_le {call : ReadCall} {t : List (Event (sig K))} {id : String} (hid : call.id = .str id)
    (h : DeliveredOnce call (yielded t)) : (framesWith id t).length ≤ 1 := by
  obtain ⟨before, frame, after, hframes, -, hothers⟩ := h
  have hnone : ∀ other ∈ before ++ after, ((toolCallsIn other).any fun c => c.id.beq (.str id)) = false := by
    intro other hother
    rw [List.any_eq_false]
    intro c hc heq
    exact hothers other hother c hc ((Json.eq_of_beq heq).trans hid.symm)
  have hbefore := List.filter_eq_nil_iff.2 fun other ho => Bool.eq_false_iff.1 (hnone other (List.mem_append_left _ ho))
  have hafter := List.filter_eq_nil_iff.2 fun other ho => Bool.eq_false_iff.1 (hnone other (List.mem_append_right _ ho))
  rw [framesWith, hframes, List.filter_append, hbefore, List.nil_append, List.filter_cons, hafter]
  split
  · exact Nat.le_refl 1
  · exact Nat.zero_le 1

end Dio.Gateway
