/-
The translation of an OpenAI event stream to Ollama's newline-delimited JSON
(`_proxy_ollama_stream`, its generator): the state it keeps, what each line of the stream does to it,
and the frames it emits. The members `created_at` and `total_duration` of a frame read the clock and
are left out.
-/
import DioServe.Gateway.Backend
import DioServe.Py.Loads
import DioServe.Text.Lines
import DioServe.Text.Utf8
import Mathlib.Data.List.Sort

namespace Dio.Gateway

open Data Py

/-! ## Ollama vocabulary -/

/-- `_ollama_done_reason`, of the `finish_reason` of the first choice. -/
def ollamaDoneReason : Json → String
  | .str "length" => "length"
  | .str "tool_calls" => "tool_calls"
  | _ => "stop"

/-- The accumulated fragments of one tool call. -/
structure ToolSlot where
  id : Json
  name : Json
  arguments : String

/-- The finished form of one tool call. -/
def toolCallDelta (idx : Int) (slot : ToolSlot) : Json :=
  .obj [("id", slot.id.orElse (.str s!"call_{idx}")), ("type", .str "function"),
    ("function", .obj [("name", slot.name), ("arguments", .str slot.arguments)])]

/-- `_ollama_tool_call_deltas`. -/
def ollamaToolCallDeltas (acc : Dict Int ToolSlot) : List Json :=
  ((acc.map Prod.fst).insertionSort (· ≤ ·)).filterMap fun idx =>
    (Dict.get? acc idx).bind fun slot =>
      if slot.name.truthy || slot.arguments ≠ "" then some (toolCallDelta idx slot) else none

/-! ## State -/

/-- What the generator keeps between lines, and the frames it has yet to yield. -/
structure Transl where
  genTokens : Nat
  reportedPrompt : Option Int
  reportedGen : Option Int
  toolCalls : Dict Int ToolSlot
  lastFinish : Json
  out : List Json

def Transl.init : Transl := ⟨0, none, none, [], .null, []⟩

/-- What the generator is given: the dialect, the model name it reports and the prompt's tokens. -/
structure TranslParams where
  isChat : Bool
  modelName : Json
  promptOnly : Int

/-- A step of the translation: it may raise, what it did before stays. -/
abbrev TranslM := ExceptT PyErr (StateM Transl)

def liftPy {α : Type} (x : Except PyErr α) : TranslM α := ExceptT.mk (pure x)

section Translate

variable (U : Unicode) (p : TranslParams)

/-! ## Frames -/

/-- The frame of a piece of generated text. -/
def contentFrame (text : Json) : Json :=
  if p.isChat then
    .obj [("model", p.modelName), ("message", .obj [("role", .str "assistant"), ("content", text)]), ("done", .bool false)]
  else .obj [("model", p.modelName), ("response", text), ("done", .bool false)]

/-- The frame of the tool calls so far. -/
def toolFrame (acc : Dict Int ToolSlot) : Json :=
  .obj [("model", p.modelName),
    ("message", .obj [("role", .str "assistant"), ("content", .str ""), ("tool_calls", .arr (ollamaToolCallDeltas acc))]),
    ("done", .bool false)]

/-- The last frame. -/
def finalFrame (st : Transl) : Json :=
  let closing : Obj :=
    if p.isChat then
      let message : Obj := [("role", .str "assistant"), ("content", .str "")]
      [("message", .obj (if st.toolCalls.isEmpty then message
        else message ++ [("tool_calls", .arr (ollamaToolCallDeltas st.toolCalls))]))]
    else [("response", .str "")]
  .obj ([("model", p.modelName), ("done", .bool true), ("done_reason", .str (ollamaDoneReason st.lastFinish)),
    ("load_duration", .int 1000000), ("prompt_eval_count", .int (st.reportedPrompt.getD p.promptOnly)),
    ("eval_count", .int (st.reportedGen.getD st.genTokens))] ++ closing)

/-- The frame of a stream that broke. -/
def errorFrame (message : String) : Json :=
  .obj [("error", .str ("upstream stream failed: " ++ message)), ("done", .bool true)]

/-! ## One event -/

/-- `gen_tokens += 1; yield frame`. -/
def emit (frame : Transl → Json) : TranslM Unit :=
  modify fun st => { st with genTokens := st.genTokens + 1, out := st.out ++ [frame st] }

/-- The counts of a usage block. -/
def onUsage : Json → TranslM Unit
  | .obj (m :: ms) => do
    let prompt := (Dict.get? (m :: ms) "prompt_tokens").getD .null
    if !prompt.isNull then
      let n ← liftPy (prompt.toInt U)
      modify fun st => { st with reportedPrompt := some n }
    let completion := (Dict.get? (m :: ms) "completion_tokens").getD .null
    if !completion.isNull then
      let n ← liftPy (completion.toInt U)
      modify fun st => { st with reportedGen := some n }
  | _ => pure ()

/-- Change the slot of a tool call. -/
def onSlot (idx : Int) (f : ToolSlot → ToolSlot) : TranslM Unit :=
  modify fun st => { st with toolCalls := Dict.modify st.toolCalls idx f }

/-- One fragment of a tool call. -/
def onFragment (frag : Json) : TranslM Unit := do
  let idx ← liftPy (frag.get "index")
  let idx ← liftPy ((idx.orElse (.int 0)).toInt U)
  modify fun st =>
    if Dict.contains st.toolCalls idx then st
    else { st with toolCalls := Dict.set st.toolCalls idx ⟨.null, .str "", ""⟩ }
  let fn := (← liftPy (frag.get "function")).orElse (.obj [])
  let id ← liftPy (frag.get "id")
  if id.truthy then onSlot idx fun s => { s with id := id }
  let name ← liftPy (fn.get "name")
  if name.truthy then onSlot idx fun s => { s with name := name }
  let arguments ← liftPy (fn.get "arguments")
  if arguments.truthy then onSlot idx fun s => { s with arguments := s.arguments ++ str U arguments }
  emit fun st => toolFrame p st.toolCalls

def onFragments : List Json → TranslM Unit
  | [] => pure ()
  | frag :: frags => do
    onFragment U p frag
    onFragments frags

/-- The first choice of an event. -/
def onChoice (choice : Json) : TranslM Unit := do
  let finish ← liftPy (choice.get "finish_reason")
  if finish.truthy then modify fun st => { st with lastFinish := finish }
  if p.isChat then
    let delta := (← liftPy (choice.get "delta")).orElse (.obj [])
    let text := (← liftPy (delta.get "content")).orElse (.str "")
    if text.truthy then emit fun _ => contentFrame p text
    let calls := (← liftPy (delta.get "tool_calls")).orElse (.arr [])
    onFragments U p (← liftPy calls.elems)
  else
    let text := (← liftPy (choice.get "text")).orElse (.str "")
    if text.truthy then emit fun _ => contentFrame p text

/-- One decoded event. -/
def onEvent (chunk : Json) : TranslM Unit := do
  onUsage U (← liftPy (chunk.get "usage"))
  let choices := (← liftPy (chunk.get "choices")).orElse (.arr [])
  -- the usage chunk has no choices
  if choices.truthy then onChoice U p (← liftPy choices.head)

/-! ## Lines and chunks -/

/-- One line of the stream, and whether it ends it. An event that raises is skipped; what it did
before stays. -/
def onLine (st : Transl) (line : List Char) : Transl × Bool :=
  let line := stripChars U line
  if "data:".toList.isPrefixOf line then
    let data := stripChars U (line.drop 5)
    if data = "[DONE]".toList then (st, true)
    else match loads (String.ofList data) with
      | .ok chunk => ((onEvent U p chunk st).2, false)
      | .error _ => (st, false)
  else (st, false)

/-- The generator before its first chunk. -/
def Transl.fresh : Text.Lines.Feed Transl := ⟨.init, [], false⟩

/-- One chunk of the stream. -/
def onChunk (st : Text.Lines.Feed Transl) (chunk : List UInt8) : Text.Lines.Feed Transl :=
  Text.Lines.feed (onLine U p) st (Text.Utf8.decode chunk)

/-- The frames of a stream that ends normally. -/
def translate (chunks : List (List UInt8)) : List Json :=
  let st := (chunks.foldl (onChunk U p) Transl.fresh).state
  st.out ++ [finalFrame p st]

/-! ## Cutting -/

theorem clean_fresh : Transl.fresh.Clean := rfl

/-- The translation depends only on the decoded text. -/
theorem foldl_onChunk (chunks : List (List UInt8)) :
    chunks.foldl (onChunk U p) Transl.fresh =
      Text.Lines.feed (onLine U p) Transl.fresh (Text.Utf8.decodeChunks chunks) := by
  have h := Text.Lines.feedAll_eq (onLine U p) (chunks.map Text.Utf8.decode) clean_fresh
  unfold Text.Lines.feedAll at h
  rw [List.foldl_map] at h
  rw [Text.Utf8.decodeChunks, List.flatMap_def]
  exact h

end Translate

end Dio.Gateway
