/-
The stdio session of the MCP server (`run_stdio`): lines of JSON-RPC in, one line out for each message
that is answered. The loop is cut after any number of rounds; every statement is about every cut.
-/
import DioServe.Effect.Lift
import DioServe.Mcp.Server
import DioServe.Py.Dumps

namespace Dio.Mcp

open Data Py Effect Gateway

/-! ## The loop -/

/-- What the loop does to the world: it reads a line, calls a tool, writes a line and flushes it. -/
inductive StdioOp
  | readline
  | tool (c : ToolCall)
  | write (out : String)

def StdioOp.Res : StdioOp → Type
  | .readline => Outcome String
  | .tool _ => Outcome Json
  | .write _ => Outcome Unit

abbrev stdioSig : Sig := ⟨StdioOp, StdioOp.Res⟩

/-- A coroutine of the session. -/
abbrev Stdio := Prog stdioSig Exn

/-- The tools among the operations of the session. -/
def tools : Sig.Embed toolSig stdioSig := ⟨.tool, fun _ r => r⟩

/-- The server on stdio. `longInteger` tells the interpreter's `ValueError` for an integer of too many digits
from the `JSONDecodeError` of a line that is no JSON. -/
structure StdioServer extends DIOMCPServer where
  longInteger : String → Bool

/-- `sys.stdin.readline()`. -/
def readline : Stdio String := Prog.ask (S := stdioSig) .readline Outcome.toExcept

/-- `sys.stdout.write(json.dumps(j) + "\n")`, flushed. -/
def writeJson (j : Json) : Stdio Unit := do
  let text ← Prog.ofExcept ((dumps .default j).mapError fun e => .exception (.python e))
  Prog.ask (S := stdioSig) (.write (text ++ "\n")) Outcome.toExcept

/-- The answer to a line that is no JSON. -/
def parseError : Json := rpcError .null (-32700) "Parse error"

section Loop

variable (S : StdioServer)

/-- The answer to a message, written. -/
def answer (req : Json) : Stdio Unit := do
  match ← (handleMessage S.toDIOMCPServer req).lift tools with
  | some resp => writeJson resp
  | none => return ()

/-- `except Exception as e: log.exception(...)`. -/
def logged (p : Stdio Unit) : Stdio Unit := do
  match ← p.attempt with
  | .ok () => return ()
  | .error (.exception _) => return ()
  | .error e => Prog.raise e

/-- A line that is not blank. -/
def serveLine (line : String) : Stdio Unit :=
  match loads line with
  | .ok req => logged (answer S req)
  -- the first handler's own write is not guarded
  | .error _ => if S.longInteger line then return () else writeJson parseError

/-- `run_stdio`, to the end of the input or for so many rounds. -/
def runStdio : Nat → Stdio Unit
  | 0 => return ()
  | n + 1 => do
    match ← readline.attempt with
    | .ok line =>
      if line = "" then return ()
      else if strip S.U line = "" then runStdio n
      else do
        serveLine S (strip S.U line)
        runStdio n
    | .error (.exception _) => runStdio n
    | .error e => Prog.raise e

end Loop

/-! ## Transcripts -/

/-- Reading and writing succeed, and no tool is cancelled. -/
def calm : Event stdioSig → Bool
  | ⟨.readline, r⟩ => Outcome.isReturned (r : Outcome String)
  | ⟨.tool _, r⟩ => !Outcome.isCancelled (r : Outcome Json)
  | ⟨.write _, r⟩ => Outcome.isReturned (r : Outcome Unit)

/-- The line that an event reads. -/
def lineOf : Event stdioSig → Option String
  | ⟨.readline, r⟩ =>
    match (r : Outcome String) with
    | .returned line => some line
    | _ => none
  | _ => none

/-- The line that an event writes. -/
def writtenBy : Event stdioSig → Option String
  | ⟨.write out, _⟩ => some out
  | _ => none

/-- The lines read. -/
def linesRead (t : List (Event stdioSig)) : List String := t.filterMap lineOf

/-- The lines written. -/
def written (t : List (Event stdioSig)) : List String := t.filterMap writtenBy

/-- One line that reads as a reply. -/
def Carried (j : Json) (out : String) : Prop := ∃ text, out = text ++ "\n" ∧ '\n' ∉ text.toList ∧ loads text = .ok j

/-- What a line that is not blank is answered with: nothing, or one line. -/
def Answered (S : StdioServer) (line : String) (out : Option String) : Prop :=
  match loads line with
  | .ok msg => ∃ r, Option.Rel Carried r out ∧ (frames msg r = [] → r = none) ∧
      List.Forall₂ Answers ((elements msg).filter fun m => expectsReply m && !initializedRequest m) (frames msg r)
  | .error _ => if S.longInteger line then out = none else ∃ o, out = some o ∧ Carried parseError o

/-! ## Replies can be written -/

section Replies

variable {S : DIOMCPServer}

@[simp] theorem portable_reply (msgId result : Json) : (reply msgId result).Portable ↔ msgId.Portable ∧ result.Portable := by
  simp [reply, Dict.keys]

@[simp] theorem portable_toolResult (text : String) (isError : Bool) : (toolResult text isError).Portable := by
  simp [toolResult, Dict.keys]

theorem portable_rpcError {msgId : Json} (h : msgId.Portable) {code : Int}
    (hcode : (Nat.toDigits 10 code.natAbs).length ≤ Dumps.maxDigits) (message : String) : (rpcError msgId code message).Portable := by
  simp [rpcError, Dict.keys, h, hcode]

theorem portable_tool (name description : String) {properties : Obj} (h : (Json.obj properties).Portable)
    (required : List String) : (tool name description properties required).Portable := by
  rw [Json.portable_obj] at h
  unfold tool
  split <;> simp [Dict.keys, Json.portable_obj.2 h]

/-- A program returns values of one kind only. -/
def Yields {α : Type} (Q : α → Prop) (p : Rpc α) : Prop := ∀ t a, p.Exec t (.ok a) → Q a

theorem Yields.ret {α : Type} {Q : α → Prop} {a : α} (h : Q a) : Yields Q (Prog.ret a) := by
  rintro t a ⟨-, ha⟩
  cases ha
  exact h

theorem Yields.bind {α β : Type} {P : α → Prop} {Q : β → Prop} {p : Rpc α} {f : α → Rpc β} (hp : Yields P p)
    (hf : ∀ a, P a → Yields Q (f a)) : Yields Q (p >>= f) := by
  intro t b h
  obtain ⟨a, t₁, t₂, h₁, h₂, -⟩ := Prog.exec_bind_ok h
  exact hf a (hp t₁ a h₁) t₂ b h₂

theorem yields_any {α : Type} (p : Rpc α) : Yields (fun _ => True) p := fun _ _ _ => trivial

theorem yields_callTool {msgId : Json} (h : msgId.Portable) (params : Obj) :
    Yields Json.Portable (callTool S msgId params) := by
  have htry : Yields Json.Portable (tryTool S msgId params) := by
    refine Yields.bind (yields_any _) fun res _ => ?_
    cases res with
    | none => exact Yields.ret (portable_rpcError h (by decide) _)
    | some res => exact Yields.bind (yields_any _) fun isError _ => Yields.ret (by simp [h])
  intro t j hexec
  obtain ⟨y, t₁, t₂, hy, hrest, -⟩ := (Prog.exec_attempt_bind _ _ _ _).1 hexec
  cases y with
  | ok j' =>
    obtain ⟨-, hj⟩ := hrest
    cases hj
    exact htry t₁ j hy
  | error e =>
    cases e with
    | exception f =>
      obtain ⟨-, hj⟩ := hrest
      cases hj
      simp [h]
    | badGateway _ _ => cases hrest.2
    | cancelled => cases hrest.2
    | generatorExit => cases hrest.2

theorem portable_toolsList : toolsList.Portable := by
  have hproperty : ∀ type description, (property type description).Portable := by simp [property, Dict.keys]
  have hnone : (Json.obj []).Portable := by simp [Dict.keys]
  simp [toolsList, Dict.keys, portable_tool, hproperty, hnone]

theorem yields_dispatch {method msgId : Json} (h : msgId.Portable) (params : Obj) :
    Yields (fun r => ∀ j ∈ r, j.Portable) (dispatch S method msgId params) := by
  have hsome : ∀ {j : Json}, j.Portable → ∀ j' ∈ some j, j'.Portable := by
    rintro j hj _ ⟨⟩
    exact hj
  unfold dispatch
  split_ifs
  · exact Yields.ret (hsome (by simp [h, initializeResult, Dict.keys]))
  · exact Yields.ret (by simp)
  · exact Yields.ret (hsome (by simp [h, Dict.keys]))
  · exact Yields.ret (hsome (by simp [h, portable_toolsList]))
  · exact Yields.bind (yields_callTool h params) fun j hj => Yields.ret (hsome hj)
  · exact Yields.ret (hsome (portable_rpcError h (by decide) _))

theorem yields_handleRequest {m : Json} (h : m.Portable) :
    Yields (fun r => ∀ j ∈ r, j.Portable) (handleRequest S m) := by
  have hinvalid : ∀ j ∈ some invalidRequest, j.Portable := by
    rintro _ ⟨⟩
    exact portable_rpcError Json.portable_null (by decide) _
  cases m with
  | obj req =>
    unfold handleRequest
    dsimp only
    cases hid : Dict.get? req "id" with
    | none => exact Yields.ret (by simp)
    | some msgId => exact yields_dispatch ((Json.portable_obj.1 h).2 _ (Dict.mem_of_get? hid)) _
  | _ => exact Yields.ret hinvalid

theorem yields_handleAll : ∀ {ms : List Json}, (∀ m ∈ ms, m.Portable) →
    Yields (fun rs => ∀ j ∈ rs, j.Portable) (handleAll S ms)
  | [], _ => Yields.ret (by simp)
  | m :: ms, h => by
    refine Yields.bind (yields_handleRequest (h m (by simp))) fun r hr => ?_
    refine Yields.bind (yields_handleAll fun m hm => h m (by simp [hm])) fun rs hrs => Yields.ret fun j hj => ?_
    rcases List.mem_append.1 hj with hj | hj
    · exact hr j (by simpa using hj)
    · exact hrs j hj

/-- The replies to a message that can be written can be written. -/
theorem yields_handleMessage {msg : Json} (h : msg.Portable) :
    Yields (fun r => ∀ j ∈ r, j.Portable) (handleMessage S msg) := by
  cases msg with
  | arr ms =>
    cases ms with
    | nil => exact yields_handleRequest (S := S) Json.portable_null
    | cons m ms =>
      refine Yields.bind (yields_handleAll (Json.portable_arr.1 h)) fun rs hrs => Yields.ret fun j hj => ?_
      split at hj
      · cases hj
      · cases hj
        exact Json.portable_arr.2 hrs
  | _ => exact yields_handleRequest (S := S) h

end Replies

/-! ## One line -/

section Line

variable {S : StdioServer} {t : List (Event stdioSig)} {x : Except Exn Unit}

/-- A portable value is written on one line. -/
theorem exec_writeJson {j : Json} (hj : j.Portable) (h : (writeJson j).Exec t x) (hcalm : ∀ ev ∈ t, calm ev = true) :
    x = .ok () ∧ linesRead t = [] ∧ ∃ out, Carried j out ∧ written t = [out] := by
  obtain ⟨text, htext, hloads, hline⟩ := hj.dumps
  unfold writeJson at h
  rw [htext] at h
  obtain ⟨r, rfl, rfl⟩ := (Prog.exec_ask (S := stdioSig) _ _ _ _).1 h
  have hr : Outcome.isReturned (r : Outcome Unit) = true := hcalm ⟨.write (text ++ "\n"), r⟩ (by simp)
  cases hr' : (r : Outcome Unit) with
  | returned u => exact ⟨rfl, rfl, _, ⟨text, rfl, hline, hloads⟩, rfl⟩
  | raised _ => rw [hr'] at hr; cases hr
  | cancelled => rw [hr'] at hr; cases hr

/-- The tools of a calm execution are not cancelled, and they neither read nor write. -/
theorem stands_tools {t' : List (Event toolSig)} (h : List.Forall₂ tools.Stands t t')
    (hcalm : ∀ ev ∈ t, calm ev = true) :
    (∀ ev ∈ t', wasCancelled ev = false) ∧ linesRead t = [] ∧ written t = [] := by
  induction h with
  | nil => exact ⟨by simp, rfl, rfl⟩
  | @cons ev ev' t t' hev _ ih =>
    obtain ⟨hno, hread, hwritten⟩ := ih fun e he => hcalm e (by simp [he])
    obtain ⟨r, rfl, hres⟩ := hev
    have hcalm' : calm ⟨tools.op ev'.op, r⟩ = true := hcalm _ (by simp)
    refine ⟨?_, hread, hwritten⟩
    intro e he
    rcases List.mem_cons.1 he with rfl | he
    · unfold wasCancelled
      rw [hres]
      simpa [calm, tools] using hcalm'
    · exact hno e he

theorem exec_answer {msg : Json} (hmsg : msg.Portable) (h : (answer S msg).Exec t x)
    (hcalm : ∀ ev ∈ t, calm ev = true) : x = .ok () ∧ linesRead t = [] ∧ ∃ r out, Option.Rel Carried r out ∧
      written t = out.toList ∧ (frames msg r = [] → r = none) ∧
      List.Forall₂ Answers ((elements msg).filter fun m => expectsReply m && !initializedRequest m) (frames msg r) := by
  unfold answer at h
  rcases (Prog.exec_bind _ _ _ _).1 h with ⟨r, t₁, t₂, h₁, h₂, rfl⟩ | ⟨e, h₁, rfl⟩
  · obtain ⟨t', h', hstands⟩ := Prog.exec_lift tools h₁
    obtain ⟨hno, hread, hwritten⟩ := stands_tools hstands fun ev hev => hcalm ev (by simp [hev])
    rcases exec_handleMessage h' with ⟨hx, -⟩ | ⟨-, r', hr, hframes, hall⟩
    · cases hx
    cases hr
    have hportable := yields_handleMessage hmsg t' r h'
    cases r with
    | none =>
      obtain ⟨rfl, rfl⟩ := h₂
      exact ⟨rfl, by simpa using hread, none, none, .none, by simpa using hwritten, hframes, hall⟩
    | some j =>
      obtain ⟨hx, hread₂, out, hout, hwritten₂⟩ := exec_writeJson (hportable j rfl) h₂ fun ev hev => hcalm ev (by simp [hev])
      refine ⟨hx, ?_, some j, some out, .some hout, ?_, hframes, hall⟩
      · simp only [linesRead, List.filterMap_append] at hread hread₂ ⊢
        rw [hread, hread₂]; rfl
      · simp only [written, List.filterMap_append] at hwritten hwritten₂ ⊢
        rw [hwritten, hwritten₂]; rfl
  · obtain ⟨t', h', hstands⟩ := Prog.exec_lift tools h₁
    obtain ⟨hno, -, -⟩ := stands_tools hstands hcalm
    rcases exec_handleMessage h' with ⟨-, ev, hev, hc⟩ | ⟨-, r', hr, -⟩
    · rw [hno ev hev] at hc; cases hc
    · cases hr

/-- A line is answered as it should be, and the loop goes on. -/
theorem exec_serveLine {line : String} (hsound : ∀ msg, loads line = .ok msg → msg.Sound)
    (h : (serveLine S line).Exec t x) (hcalm : ∀ ev ∈ t, calm ev = true) :
    x = .ok () ∧ linesRead t = [] ∧ ∃ out, Answered S line out ∧ written t = out.toList := by
  unfold serveLine at h
  unfold Answered
  cases hload : loads line with
  | ok msg =>
    rw [hload] at h
    obtain ⟨y, t₁, t₂, h₁, h₂, rfl⟩ := (Prog.exec_attempt_bind _ _ _ _).1 h
    obtain ⟨rfl, hread, r, out, hout, hwritten, hanswered⟩ :=
      exec_answer (Json.portable_of_loads hload (hsound msg hload)) h₁ fun ev hev => hcalm ev (by simp [hev])
    obtain ⟨rfl, rfl⟩ := h₂
    exact ⟨rfl, by simpa using hread, out, ⟨r, hout, hanswered⟩, by simpa using hwritten⟩
  | error e =>
    rw [hload] at h
    dsimp only at h ⊢
    split at h
    · rename_i hlong
      obtain ⟨rfl, rfl⟩ := h
      exact ⟨rfl, rfl, none, by simp [hlong], rfl⟩
    · rename_i hshort
      obtain ⟨rfl, hread, out, hout, hwritten⟩ :=
        exec_writeJson (portable_rpcError Json.portable_null (by decide) "Parse error") h hcalm
      exact ⟨rfl, hread, some out, by rw [if_neg hshort]; exact ⟨out, rfl, hout⟩, hwritten⟩

end Line

-- from here on a line is served as `exec_serveLine` says: to unfold it would be to run the parser
attribute [irreducible] serveLine Answered

/-! ## The session -/

/-- The event of reading a line. -/
def lineRead (line : String) : Event stdioSig := ⟨.readline, (.returned line : Outcome String)⟩

section Session

variable {S : StdioServer} {t : List (Event stdioSig)} {x : Except Exn Unit}

/-- A calm round: the input has ended, the line is blank, or it is served. -/
theorem exec_round {n : Nat} (h : (runStdio S (n + 1)).Exec t x) (hcalm : ∀ ev ∈ t, calm ev = true) :
    ∃ line t', t = lineRead line :: t' ∧ ((line = "" ∧ t' = [] ∧ x = .ok ()) ∨
      (strip S.U line = "" ∧ (runStdio S n).Exec t' x) ∨
      (strip S.U line ≠ "" ∧ ((∃ u t₁ t₂, (serveLine S (strip S.U line)).Exec t₁ (.ok u) ∧ (runStdio S n).Exec t₂ x ∧
        t' = t₁ ++ t₂) ∨ ∃ e, (serveLine S (strip S.U line)).Exec t' (.error e) ∧ x = .error e))) := by
  unfold runStdio at h
  obtain ⟨y, t₁, t₂, h₁, h₂, rfl⟩ := (Prog.exec_attempt_bind _ _ _ _).1 h
  obtain ⟨r, rfl, rfl⟩ := (Prog.exec_ask (S := stdioSig) _ _ _ _).1 h₁
  have hr : Outcome.isReturned (r : Outcome String) = true := hcalm ⟨.readline, r⟩ (by simp)
  change Outcome String at r
  cases r with
  | raised _ => cases hr
  | cancelled => cases hr
  | returned line =>
    refine ⟨line, t₂, rfl, ?_⟩
    change (if line = "" then _ else _ : Stdio Unit).Exec t₂ x at h₂
    split at h₂
    · rename_i hend
      exact .inl ⟨hend, h₂.1, h₂.2⟩
    · split at h₂
      · rename_i hblank
        exact .inr (.inl ⟨hblank, h₂⟩)
      · rename_i hline
        exact .inr (.inr ⟨hline, (Prog.exec_bind _ _ _ _).1 h₂⟩)

/-- The messages of a session: its lines but for the blank ones. -/
def messages (S : StdioServer) (t : List (Event stdioSig)) : List String :=
  ((linesRead t).map (strip S.U)).filter (· ≠ "")

theorem messages_lineRead (line : String) (t : List (Event stdioSig)) : messages S (lineRead line :: t) =
    if strip S.U line = "" then messages S t else strip S.U line :: messages S t := by
  have hread : linesRead (lineRead line :: t) = line :: linesRead t := rfl
  rw [messages, hread]
  split <;> simp [messages, *]

theorem messages_append {t₁ : List (Event stdioSig)} (h : linesRead t₁ = []) (t₂ : List (Event stdioSig)) :
    messages S (t₁ ++ t₂) = messages S t₂ := by
  simp only [messages, linesRead, List.filterMap_append] at h ⊢
  rw [h, List.nil_append]

end Session

/-- In a session, cut anywhere, every message is answered, in the order they came, and nothing else is written: what
is written for a message is one line, which reads as the reply. -/
theorem stdio_session (S : StdioServer) : ∀ (n : Nat) {t : List (Event stdioSig)} {x : Except Exn Unit},
    (runStdio S n).Exec t x → (∀ ev ∈ t, calm ev = true) →
    (∀ line ∈ messages S t, ∀ msg, loads line = .ok msg → msg.Sound) →
    x = .ok () ∧ ∃ outs, List.Forall₂ (Answered S) (messages S t) outs ∧ written t = outs.filterMap id
  | 0, _, _, ⟨rfl, rfl⟩, _, _ => ⟨rfl, [], .nil, rfl⟩
  | n + 1, _, x, h, hcalm, hsound => by
    obtain ⟨line, t, rfl, hround⟩ := exec_round h hcalm
    have hcalm' : ∀ ev ∈ t, calm ev = true := fun ev hev => hcalm ev (by simp [hev])
    rw [messages_lineRead] at hsound ⊢
    rcases hround with ⟨rfl, rfl, rfl⟩ | ⟨hblank, hrest⟩ | ⟨hline, ⟨u, t₁, t₂, h₁, h₂, rfl⟩ | ⟨e, h₁, rfl⟩⟩
    · have hend : strip S.U "" = "" := rfl
      rw [if_pos hend]
      exact ⟨rfl, [], .nil, rfl⟩
    · rw [if_pos hblank] at hsound ⊢
      exact stdio_session S n hrest hcalm' hsound
    · rw [if_neg hline] at hsound ⊢
      have hcalm₁ : ∀ ev ∈ t₁, calm ev = true := fun ev hev => hcalm' ev (by simp [hev])
      have hfirst := hsound (strip S.U line) (by simp)
      obtain ⟨-, hread, out, hout, hwritten⟩ := exec_serveLine hfirst h₁ hcalm₁
      rw [messages_append hread] at hsound ⊢
      obtain ⟨hx, outs, hall, hwritten₂⟩ := stdio_session S n h₂ (fun ev hev => hcalm' ev (by simp [hev]))
        fun l hl => hsound l (by simp [hl])
      refine ⟨hx, out :: outs, .cons hout hall, ?_⟩
      simp only [written] at hwritten hwritten₂
      have hskip : writtenBy (lineRead line) = none := rfl
      rw [written, List.filterMap_cons_none hskip, List.filterMap_append, hwritten, hwritten₂]
      cases out <;> rfl
    · rw [if_neg hline] at hsound
      have hfirst := hsound (strip S.U line) (by simp)
      cases (exec_serveLine hfirst h₁ hcalm').1

/-! ## Examples -/

/-- A server, and a client that pings at every line. -/
def pingServer : StdioServer := ⟨plainServer, fun _ => false⟩

def pingLine : String := "\x7b\"id\": 1, \"method\": \"ping\"\x7d"

def pinging : (o : StdioOp) → o.Res
  | .readline => (.returned (pingLine ++ "\n") : Outcome String)
  | .tool _ => (.raised "connection refused" : Outcome Json)
  | .write _ => (.returned () : Outcome Unit)

theorem stdio_session_pings : messages pingServer (Prog.run (S := stdioSig) pinging (runStdio pingServer 2)).1 =
    [pingLine, pingLine] ∧ ∃ outs, List.Forall₂ (Answered pingServer)
      (messages pingServer (Prog.run (S := stdioSig) pinging (runStdio pingServer 2)).1) outs ∧
        written (Prog.run (S := stdioSig) pinging (runStdio pingServer 2)).1 = outs.filterMap id := by
  have hmessages : messages pingServer (Prog.run (S := stdioSig) pinging (runStdio pingServer 2)).1 =
      [pingLine, pingLine] := by decide +kernel
  refine ⟨hmessages, (stdio_session pingServer 2 (Prog.exec_run (S := stdioSig) pinging _) ?_ ?_).2⟩
  · intro ev hev
    rw [Prog.mem_run (S := stdioSig) pinging hev]
    obtain ⟨o, r⟩ := ev
    cases o <;> rfl
  · rw [hmessages]
    intro line hline msg hload
    have hping : (Json.obj [("id", .int 1), ("method", .str "ping")]).Sound := by simp [Json.Proper, Json.ProperMembers, Dict.keys]
    have hread : loads pingLine = .ok (.obj [("id", .int 1), ("method", .str "ping")]) :=
      loads_dumps (l := .default) hping (dumps_eq_ok.2 ⟨by decide +kernel, by decide +kernel⟩)
    have hsame : line = pingLine := by simpa using hline
    rw [hsame, hread] at hload
    cases hload
    exact hping

end Dio.Mcp
