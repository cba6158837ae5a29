/-
What a request handler of the gateway does to the world: the calls it makes on the scheduler, the
HTTP client, the clock and the consumer of its stream, how each can end, and the replies it makes.
The awaited calls can raise or be cancelled. The chunks a stream will deliver are fixed when it is
first read; whether it then ends or breaks is asked when they are used up.
-/
import DioServe.Effect.Prog
import DioServe.Gateway.Backend
import DioServe.Scheduler.Pick

namespace Dio.Gateway

open Data Py Effect Scheduler

/-! ## Exceptions -/

/-- An `Exception`: a built-in's, or one of the HTTP client with its text. -/
inductive Fault
  | python (e : PyErr)
  | client (text : String)

/-- `str(e)`; the built-ins' own texts are not modelled, only their class. -/
def Fault.text : Fault → String
  | .python e => e.name
  | .client text => text

/-- What a coroutine can raise. `badGateway` is the `HTTPException(502, ...)` of a failed backend;
`cancelled` and `generatorExit` are no `Exception`s. -/
inductive Exn
  | exception (f : Fault)
  | badGateway (workerId : String) (f : Fault)
  | cancelled
  | generatorExit

/-- How an awaited call ends. -/
inductive Outcome (α : Type)
  | returned (a : α)
  | raised (text : String)
  | cancelled

def Outcome.toExcept {α : Type} : Outcome α → Except Exn α
  | .returned a => .ok a
  | .raised text => .error (.exception (.client text))
  | .cancelled => .error .cancelled

def Outcome.isCancelled {α : Type} : Outcome α → Bool
  | .cancelled => true
  | _ => false

def Outcome.isRaised {α : Type} : Outcome α → Bool
  | .raised _ => true
  | _ => false

def Outcome.isReturned {α : Type} : Outcome α → Bool
  | .returned _ => true
  | _ => false

/-- What the consumer of a generator does after an item: ask for the next one, or close it. -/
inductive Resume
  | next | close

def Resume.toExcept : Resume → Except Exn Unit
  | .next => .ok ()
  | .close => .error .generatorExit

/-! ## Calls -/

/-- A call made once, or once more: the fallback of the JSON path, the retry of the streaming one. -/
inductive Attempt
  | first | again
  deriving DecidableEq

/-- Where a stream is read out or closed: before a retry, to report an error status, in `finally`. -/
inductive Phase
  | retry | refused | final
  deriving DecidableEq

/-- The answer to a `post`. `json` is what `.json()` returns, none when it raises. -/
structure UpstreamResponse where
  status : Nat
  json : Option Json
  text : String

/-- One item of a response stream. -/
inductive Frame
  | bytes (chunk : List UInt8)
  /-- An SSE event. -/
  | event (payload : Json)
  /-- The SSE event `[DONE]`. -/
  | done
  /-- A line of newline-delimited JSON. -/
  | ndjson (payload : Json)

inductive Call (K : Type)
  | pick (a : PickArgs)
  | feedback (workerId : String) (e2eMs : K) (tokens : Int) (success : Bool)
  | release (workerId : String)
  | noteFailure (workerId : String)
  | perfCounter
  | time
  | post (n : Attempt) (request : HttpRequest)
  | buildRequest (n : Attempt) (request : HttpRequest)
  | send (n : Attempt)
  | aread (phase : Phase)
  | aclose (phase : Phase)
  | aiterBytes
  | iterEnd
  | yield (frame : Frame)

/-- What a call can be answered with. -/
def Call.Res {K : Type} : Call K → Type
  | .pick _ => Except AdmissionError (String × RoutingDecision K)
  | .feedback .. => Unit
  | .release _ => Unit
  | .noteFailure _ => Bool
  | .perfCounter => K
  | .time => K
  | .post .. => Outcome UpstreamResponse
  | .buildRequest .. => Except String Unit
  | .send _ => Outcome Nat
  | .aread _ => Outcome (List UInt8)
  | .aclose _ => Outcome Unit
  | .aiterBytes => List (List UInt8)
  | .iterEnd => Outcome Unit
  | .yield _ => Resume

abbrev sig (K : Type) : Sig := ⟨Call K, Call.Res⟩

/-- A coroutine of the gateway. -/
abbrev Co (K : Type) := Prog (sig K) Exn

variable {K : Type}

/-- A computation with the built-ins. -/
def py {α : Type} (x : Except PyErr α) : Co K α := Prog.ofExcept (x.mapError fun e => .exception (.python e))

def pick (a : PickArgs) : Co K (Except AdmissionError (String × RoutingDecision K)) := Prog.call (S := sig K) (.pick a)

def feedback (workerId : String) (e2eMs : K) (tokens : Int) (success : Bool) : Co K Unit :=
  Prog.call (S := sig K) (.feedback workerId e2eMs tokens success)

def release (workerId : String) : Co K Unit := Prog.call (S := sig K) (.release workerId)

def noteFailure (workerId : String) : Co K Bool := Prog.call (S := sig K) (.noteFailure workerId)

def perfCounter : Co K K := Prog.call (S := sig K) .perfCounter

def time : Co K K := Prog.call (S := sig K) .time

def post (n : Attempt) (request : HttpRequest) : Co K UpstreamResponse :=
  Prog.ask (S := sig K) (.post n request) Outcome.toExcept

def buildRequest (n : Attempt) (request : HttpRequest) : Co K Unit :=
  Prog.ask (S := sig K) (.buildRequest n request) fun r : Except String Unit =>
    r.mapError fun text => .exception (.client text)

def send (n : Attempt) : Co K Nat := Prog.ask (S := sig K) (.send n) Outcome.toExcept

def aread (phase : Phase) : Co K (List UInt8) := Prog.ask (S := sig K) (.aread phase) Outcome.toExcept

def aclose (phase : Phase) : Co K Unit := Prog.ask (S := sig K) (.aclose phase) Outcome.toExcept

def aiterBytes : Co K (List (List UInt8)) := Prog.call (S := sig K) .aiterBytes

def iterEnd : Co K Unit := Prog.ask (S := sig K) .iterEnd Outcome.toExcept

def yield (frame : Frame) : Co K Unit := Prog.ask (S := sig K) (.yield frame) Resume.toExcept

section Exec

variable (t : List (Event (sig K)))

@[simp] theorem exec_py {α : Type} (y : Except PyErr α) (x : Except Exn α) :
    (py y : Co K α).Exec t x ↔ t = [] ∧ x = y.mapError fun e => .exception (.python e) := Prog.exec_ofExcept _ _ _

@[simp] theorem exec_feedback (w : String) (e2eMs : K) (tokens : Int) (success : Bool) (x : Except Exn Unit) :
    (feedback w e2eMs tokens success).Exec t x ↔ t = [⟨.feedback w e2eMs tokens success, ()⟩] ∧ x = .ok () :=
  (Prog.exec_call (S := sig K) _ _ _).trans ⟨fun ⟨_, h⟩ => h, fun h => ⟨(), h⟩⟩

@[simp] theorem exec_release (w : String) (x : Except Exn Unit) :
    (release w : Co K Unit).Exec t x ↔ t = [⟨.release w, ()⟩] ∧ x = .ok () :=
  (Prog.exec_call (S := sig K) _ _ _).trans ⟨fun ⟨_, h⟩ => h, fun h => ⟨(), h⟩⟩

@[simp] theorem exec_perfCounter (x : Except Exn K) :
    (perfCounter : Co K K).Exec t x ↔ ∃ r, t = [⟨.perfCounter, r⟩] ∧ x = .ok r := Prog.exec_call (S := sig K) _ _ _

@[simp] theorem exec_post (n : Attempt) (request : HttpRequest) (x : Except Exn UpstreamResponse) :
    (post n request : Co K _).Exec t x ↔ ∃ r : Outcome UpstreamResponse, t = [⟨.post n request, r⟩] ∧ x = r.toExcept :=
  Prog.exec_ask (S := sig K) _ _ _ _

@[simp] theorem exec_buildRequest (n : Attempt) (request : HttpRequest) (x : Except Exn Unit) :
    (buildRequest n request : Co K Unit).Exec t x ↔ ∃ r : Except String Unit,
      t = [⟨.buildRequest n request, r⟩] ∧ x = r.mapError fun text => .exception (.client text) :=
  Prog.exec_ask (S := sig K) _ _ _ _

@[simp] theorem exec_send (n : Attempt) (x : Except Exn Nat) :
    (send n : Co K Nat).Exec t x ↔ ∃ r : Outcome Nat, t = [⟨.send n, r⟩] ∧ x = r.toExcept :=
  Prog.exec_ask (S := sig K) _ _ _ _

@[simp] theorem exec_aclose (phase : Phase) (x : Except Exn Unit) :
    (aclose phase : Co K Unit).Exec t x ↔ ∃ r : Outcome Unit, t = [⟨.aclose phase, r⟩] ∧ x = r.toExcept :=
  Prog.exec_ask (S := sig K) _ _ _ _

@[simp] theorem exec_iterEnd (x : Except Exn Unit) :
    (iterEnd : Co K Unit).Exec t x ↔ ∃ r : Outcome Unit, t = [⟨.iterEnd, r⟩] ∧ x = r.toExcept :=
  Prog.exec_ask (S := sig K) _ _ _ _

@[simp] theorem exec_yield (frame : Frame) (x : Except Exn Unit) :
    (yield frame : Co K Unit).Exec t x ↔ ∃ r : Resume, t = [⟨.yield frame, r⟩] ∧ x = r.toExcept :=
  Prog.exec_ask (S := sig K) _ _ _ _

end Exec

/-! ## Replies -/

/-- `s` can be sent in an HTTP header. -/
def latin1 (s : String) : Bool := s.toList.all fun c => c.toNat < 256

/-- The annotation `dio` of a JSON reply. -/
structure DioBlock (K : Type) where
  backendId : String
  backendUrl : String
  apiStyle : ApiStyle
  e2eMs : K
  tokens : Int
  reportedTokens : Option Int
  sloMs : K
  overBudget : Bool
  decision : RoutingDecision K

/-- A JSON response; its member `dio` is kept apart from the rest of its content. -/
structure JsonResponse (K : Type) where
  status : Nat
  content : Json
  dio : Option (DioBlock K) := none
  headers : Dict String String := []

/-- A response: a JSON one, or a head and the generator of a stream. -/
inductive Reply (K : Type)
  | json (r : JsonResponse K)
  | stream (status : Nat) (mediaType : String) (headers : Dict String String) (gen : Co K Unit)

def headersOk (headers : Dict String String) : Bool := headers.all fun p => latin1 p.2

/-- `JSONResponse(...)`: raises when the content or a header cannot be encoded. -/
def jsonResponse (r : JsonResponse K) : Co K (JsonResponse K) :=
  if r.content.finite && headersOk r.headers then return r else py (.error .valueError)

/-- `StreamingResponse(...)`. -/
def streamingResponse (status : Nat) (mediaType : String) (headers : Dict String String) (gen : Co K Unit) :
    Co K (Reply K) :=
  if headersOk headers then return .stream status mediaType headers gen else py (.error .valueError)

/-- A handler to its end: the reply's generator, when it has one, read by the server. -/
def serve (p : Co K (Reply K)) : Co K Unit := do
  match ← p with
  | .json _ => return ()
  | .stream _ _ _ gen => gen

theorem serve_bind {α : Type} (p : Co K α) (f : α → Co K (Reply K)) : serve (p >>= f) = p >>= fun a => serve (f a) :=
  Prog.bind_assoc p f _

/-- What an accepted stream is handed over as. -/
theorem serve_streamingResponse (status : Nat) (mediaType : String) (headers : Dict String String) (gen : Co K Unit) :
    serve (streamingResponse status mediaType headers gen) =
      if headersOk headers then gen else py (.error .valueError) := by
  unfold streamingResponse
  split <;> rfl

/-! ## Formatting -/

section Format

variable [Field K] [LinearOrder K] [FloorRing K]

/-- The digits of `f"{x:.1f}"`. -/
def fixed1 (x : K) : String :=
  let n := roundHalfEven (x * 10)
  let digits := toString (n.natAbs / 10) ++ "." ++ toString (n.natAbs % 10)
  if n < 0 then "-" ++ digits else digits

/-- `round(x, 2)`. -/
def round2 (x : K) : K := (roundHalfEven (x * 100) : K) / 100

/-- `int(x)`. -/
def truncate (x : K) : Int := if 0 ≤ x then ⌊x⌋ else ⌈x⌉

end Format

end Dio.Gateway
