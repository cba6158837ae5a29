/-
What an OpenAI-style engine generates for one request, how it writes it as one JSON reply, and all the
ways in which it may stream it: the text and the arguments of the tool calls cut anywhere, each event
with whatever other members, as lines of any JSON text for it.
-/
import DioServe.Gateway.Translate

namespace Dio.Gateway

open Data Py

/-! ## Replies -/

structure ToolCall where
  id : String
  name : String
  arguments : String
  named : name ≠ ""

/-- What is generated for one request. -/
structure EngineReply where
  text : String
  calls : List ToolCall
  finish : String
  promptTokens : Int
  completionTokens : Int

/-! ## As JSON -/

/-- The member `k` is the text `s`; an empty one may be left out or null. -/
def TextMember (kvs : Obj) (k s : String) : Prop :=
  Dict.get? kvs k = some (.str s) ∨ s = "" ∧ (Dict.get? kvs k = none ∨ Dict.get? kvs k = some .null)

/-- The member `k` lists the things `xs`; an empty list may be left out or null. -/
def ListMember {α : Type} (Written : α → Json → Prop) (kvs : Obj) (k : String) (xs : List α) : Prop :=
  (∃ js, Dict.get? kvs k = some (.arr js) ∧ List.Forall₂ Written xs js) ∨
    xs = [] ∧ (Dict.get? kvs k = none ∨ Dict.get? kvs k = some .null)

/-- An object for a tool call. -/
def ToolCall.Written (c : ToolCall) (j : Json) : Prop :=
  ∃ kvs fn, j = .obj kvs ∧ Dict.get? kvs "id" = some (.str c.id) ∧ Dict.get? kvs "type" = some (.str "function") ∧
    Dict.get? kvs "function" = some (.obj fn) ∧ Dict.get? fn "name" = some (.str c.name) ∧
    Dict.get? fn "arguments" = some (.str c.arguments)

/-- The usage block of a reply. -/
def UsageMember (kvs : Obj) (prompt completion : Int) : Prop :=
  ∃ usage, Dict.get? kvs "usage" = some (.obj usage) ∧ Dict.get? usage "prompt_tokens" = some (.int prompt) ∧
    Dict.get? usage "completion_tokens" = some (.int completion) ∧
    (Dict.get? usage "total_tokens" = none ∨ ∃ total, Dict.get? usage "total_tokens" = some (.int total))

/-- A count of a usage block: a number, or not given. -/
def CountMember (usage : Obj) (k : String) : Prop :=
  (∃ n, Dict.get? usage k = some (.int n)) ∨ Dict.get? usage k = none ∨ Dict.get? usage k = some .null

/-- The usage block, if there is one, can be read for the given counts. -/
def UsageReadable (kvs : Obj) (counts : List String) : Prop :=
  (Dict.get? kvs "usage" = none ∨ Dict.get? kvs "usage" = some .null) ∨
    ∃ usage, Dict.get? kvs "usage" = some (.obj usage) ∧ ∀ k ∈ counts, CountMember usage k

/-- The first choice of a reply holds what was generated: a message of a chat, a text of a completion. -/
def EngineReply.Generated (r : EngineReply) (isChat : Bool) (choice : Obj) : Prop :=
  if isChat then ∃ message, Dict.get? choice "message" = some (.obj message) ∧ TextMember message "content" r.text ∧
    ListMember ToolCall.Written message "tool_calls" r.calls
  else Dict.get? choice "text" = some (.str r.text) ∧ r.calls = []

/-- The reply of an engine that does not stream. -/
def EngineReply.Written (r : EngineReply) (isChat : Bool) (data : Json) : Prop :=
  ∃ kvs choice rest, data = .obj kvs ∧ Dict.get? kvs "choices" = some (.arr (.obj choice :: rest)) ∧
    TextMember choice "finish_reason" r.finish ∧ r.Generated isChat choice ∧
    UsageMember kvs r.promptTokens r.completionTokens

/-! ## As a stream -/

/-- A piece of a tool call: its index, a piece of its arguments, and its id and name where they are given. -/
structure Fragment where
  index : Nat
  id : String
  name : String
  arguments : String

/-- A piece of a reply: a piece of its text, fragments of its tool calls, and the finish reason where it
is given. -/
structure Delta where
  text : String
  fragments : List Fragment
  finish : String

/-- The fragments of a tool call, the first with its id and name, together with its arguments. -/
def ToolCall.CutInto (c : ToolCall) : List Fragment → Prop
  | [] => False
  | f :: fs => f.id = c.id ∧ f.name = c.name ∧ (∀ g ∈ fs, g.id = "" ∧ g.name = "") ∧
    String.join ((f :: fs).map Fragment.arguments) = c.arguments

/-- Fragments, in any order that keeps those of each call in order, that make up the tool calls. -/
def CutCalls (calls : List ToolCall) (fragments : List Fragment) : Prop :=
  (∀ f ∈ fragments, f.index < calls.length) ∧
    ∀ (i : Nat) (c : ToolCall), calls[i]? = some c → c.CutInto (fragments.filter fun f => f.index = i)

/-- Pieces that make up the reply, the last one with the finish reason. -/
structure EngineReply.CutInto (r : EngineReply) (deltas : List Delta) (last : Delta) : Prop where
  text : String.join ((deltas ++ [last]).map Delta.text) = r.text
  calls : CutCalls r.calls ((deltas ++ [last]).flatMap Delta.fragments)
  unfinished : ∀ d ∈ deltas, d.finish = ""
  finish : last.finish = r.finish

def Fragment.Written (f : Fragment) (j : Json) : Prop :=
  ∃ kvs fn, j = .obj kvs ∧ Dict.get? kvs "index" = some (.int f.index) ∧ TextMember kvs "id" f.id ∧
    Dict.get? kvs "function" = some (.obj fn) ∧ TextMember fn "name" f.name ∧ TextMember fn "arguments" f.arguments

/-- The first choice of an event holds a piece. -/
def Delta.Generated (d : Delta) (isChat : Bool) (choice : Obj) : Prop :=
  if isChat then ∃ delta, Dict.get? choice "delta" = some (.obj delta) ∧ TextMember delta "content" d.text ∧
    ListMember Fragment.Written delta "tool_calls" d.fragments
  else TextMember choice "text" d.text ∧ d.fragments = []

/-- An event with a piece of a reply. -/
def Delta.Written (isChat : Bool) (d : Delta) (event : Json) : Prop :=
  ∃ kvs choice rest, event = .obj kvs ∧ (Dict.get? kvs "usage" = none ∨ Dict.get? kvs "usage" = some .null) ∧
    Dict.get? kvs "choices" = some (.arr (.obj choice :: rest)) ∧ TextMember choice "finish_reason" d.finish ∧
    d.Generated isChat choice

/-- The usage chunk. -/
def UsageEvent (prompt completion : Int) (event : Json) : Prop :=
  ∃ kvs, event = .obj kvs ∧ UsageMember kvs prompt completion ∧ Dict.get? kvs "choices" = some (.arr [])

/-- The events of a streamed reply. -/
def EngineReply.Streamed (r : EngineReply) (isChat : Bool) (events : List Json) : Prop :=
  ∃ deltas last es usage, r.CutInto deltas last ∧ List.Forall₂ (Delta.Written isChat) (deltas ++ [last]) es ∧
    UsageEvent r.promptTokens r.completionTokens usage ∧ events = es ++ [usage]

/-! ## As lines -/

/-- Spaces of a line. -/
def Pad (cs : List Char) : Prop := ∀ c ∈ cs, c = ' ' ∨ c = '\t' ∨ c = '\r'

/-- A text of an object. -/
def ObjectText (j : Json) (text : List Char) : Prop :=
  text.head? = some '\x7b' ∧ text.getLast? = some '\x7d' ∧ loads (String.ofList text) = .ok j

/-- A data line of an event stream. -/
def DataLine (data line : List Char) : Prop :=
  ∃ pad pad', Pad pad ∧ Pad pad' ∧ line = "data:".toList ++ (pad ++ (data ++ pad'))

/-- Lines that carry the events and then `[DONE]`, with blank lines anywhere and anything after it. -/
inductive Carries : List (List Char) → List Json → Prop
  | done {line : List Char} {lines : List (List Char)} : DataLine "[DONE]".toList line → Carries (line :: lines) []
  | blank {line : List Char} {lines : List (List Char)} {events : List Json} : Pad line → Carries lines events →
      Carries (line :: lines) events
  | event {line text : List Char} {lines : List (List Char)} {e : Json} {events : List Json} : ObjectText e text →
      DataLine text line → Carries lines events → Carries (line :: lines) (e :: events)

/-- The chunks deliver the streamed reply: complete lines, no character cut. -/
structure EngineReply.Delivered (r : EngineReply) (isChat : Bool) (chunks : List (List UInt8)) : Prop where
  uncut : Text.Utf8.CleanCuts chunks
  lines : ∃ ls events, Text.Utf8.decode chunks.flatten = Text.Lines.unlines ls ∧ (∀ l ∈ ls, '\n' ∉ l) ∧
    Carries ls events ∧ r.Streamed isChat events

end Dio.Gateway
