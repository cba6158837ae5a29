/-
What the client of `_relay_stream` is sent. The engine's chunks are relayed as they are and in their order, whatever
happens around them: a rejection and a broken stream end with an error event, and a client that hangs up is sent no
more.
-/
import DioServe.Effect.Copy
import DioServe.Gateway.StreamSlot

namespace Dio.Gateway

open Data Py Effect Scheduler

variable {K : Type}

/-! ## What is owed -/

/-- What a rejected request is answered with. -/
def rejectionFrames (e : AdmissionError) : List Frame := [.event (rejectionBody e), .done]

/-- What the client is owed after a call: the chunks of the stream, or how it was rejected or broke. -/
def owedFrames : Event (sig K) → List Frame
  | ⟨.pick _, r⟩ =>
    match r with
    | .error e => rejectionFrames e
    | .ok _ => []
  | ⟨.aiterBytes, chunks⟩ => List.map Frame.bytes chunks
  | ⟨.iterEnd, r⟩ =>
    match r with
    | .raised text => sseReport text
    | _ => []
  | _ => []

def sentFrame : Event (sig K) → Option Frame
  | ⟨.yield frame, _⟩ => some frame
  | _ => none

/-- The client closes the stream. -/
def closesStream : Event (sig K) → Bool
  | ⟨.yield _, r⟩ =>
    match r with
    | .close => true
    | .next => false
  | _ => false

/-- The copying that a relayed stream is. -/
def relaying : Copy (sig K) Frame := ⟨owedFrames, sentFrame, closesStream⟩

/-! ## The relay -/

/-- Sending is only broken off by the client. -/
theorem inTurn_yieldAll (frames : List Frame) :
    relaying.monitor.InTurn { items := frames } (yieldAll frames : Co K Unit) (fun _ s => s = {})
      fun e s => e = .generatorExit ∧ s.gone = true := by
  refine Copy.inTurn_forEach (fun frame items => .ask fun r => ⟨_, Copy.next_sent rfl rfl items, ?_⟩) frames
  cases r with
  | next => exact rfl
  | close => exact ⟨rfl, rfl⟩

theorem quiet_py {α : Type} {y : Except PyErr α} : relaying.Quiet (py y : Co K α) := Prog.Only.ofExcept _

/-- How the reading of a stream ends: copied, broken with its report owed, or given up. -/
def ReadEnd : Except Exn Unit → Backlog Frame → Prop
  | .ok (), s => s = {}
  | .error (.exception f), s => s = { items := sseReport f.text }
  | .error _, s => s.Settled

theorem settled_empty : ({} : Backlog Frame).Settled := .inr rfl

theorem inTurn_relayChunks :
    relaying.monitor.InTurn {} (relayChunks : Co K Unit) (fun _ s => s = {}) fun e s => ReadEnd (.error e) s := by
  refine Monitor.InTurn.bind (Q := fun chunks s => s = { items := List.map Frame.bytes chunks })
    (.call fun _ => ⟨_, Copy.next_owed rfl rfl, rfl⟩) fun chunks _ hs => ?_
  subst hs
  refine Monitor.InTurn.bind ((inTurn_yieldAll _).mono (fun _ _ h => h) ?_) fun _ _ hs => ?_
  · rintro _ s ⟨rfl, hgone⟩
    exact .inl hgone
  subst hs
  refine .ask fun r => ⟨_, Copy.next_owed rfl rfl, ?_⟩
  cases r with
  | returned a => exact rfl
  | raised text => exact rfl
  | cancelled => exact settled_empty

theorem inTurn_tryRelay :
    relaying.monitor.InTurn {} (tryStream relayChunks fun _ => Prog.ret () : Co K _) (fun r s => ReadEnd r.2 s)
      fun _ s => s.Settled := by
  refine Monitor.InTurn.bind inTurn_relayChunks.attempt fun y s hs => ?_
  cases y with
  | ok a => exact .ret hs
  | error e => exact .ret hs

/-- The program is a copy from where nothing is owed. -/
def Relays {α : Type} (s : Backlog Frame) (p : Co K α) : Prop :=
  relaying.monitor.InTurn s p (fun _ s' => s'.Settled) fun _ s' => s'.Settled

/-- What follows a call that leaves frames owed makes a copy with it. -/
theorem Relays.copied {α : Type} {p : Co K α} {frames : List Frame} (h : Relays { items := frames } p)
    {ev : Event (sig K)} (howed : owedFrames ev = frames) (hsent : sentFrame ev = none)
    (hcloses : closesStream ev = false) {t : List (Event (sig K))} {x : Except Exn α} (ht : p.Exec t x) :
    relaying.Copied (ev :: t) := by
  subst howed
  obtain ⟨s, hrun, hend⟩ := h t x ht
  have hsettled : s.Settled := by
    cases x <;> exact hend
  refine Copy.copied_of_run (s := s) ?_ hsettled
  rw [Monitor.run_cons (Copy.next_owed hsent hcloses)]
  exact hrun

theorem relays_of_quiet {α : Type} {p : Co K α} (h : relaying.Quiet p) {s : Backlog Frame} (hs : s.Settled) :
    Relays s p :=
  h.inTurn (fun _ => hs) fun _ => hs

/-- What takes no part comes before the rest. -/
theorem Relays.after {α β : Type} {p : Co K α} {f : α → Co K β} (hp : relaying.Quiet p) (hf : ∀ a, Relays {} (f a)) :
    Relays {} (p >>= f) := by
  refine Monitor.InTurn.bind (hp.inTurn (Q := fun _ s => s = {}) (fun _ => rfl) fun _ => settled_empty) fun a s hs => ?_
  subst hs
  exact hf a

theorem relays_yieldAll (frames : List Frame) : Relays { items := frames } (yieldAll frames : Co K Unit) :=
  (inTurn_yieldAll frames).mono (fun _ _ hs => .inr (by rw [hs])) fun _ _ hs => .inl hs.2

/-- A broken stream is reported, and the report is all that is owed then. -/
theorem inTurn_onException {w : String} {outcome : Except Exn Unit} {s : Backlog Frame} (h : ReadEnd outcome s) :
    Relays s (onException w sseReport outcome : Co K Unit) := by
  rcases outcome with e | _
  · cases e with
    | exception f =>
      subst h
      refine Monitor.InTurn.bind (Q := fun _ s => s = { items := sseReport f.text })
        (.call fun _ => ⟨_, Copy.next_quiet rfl rfl rfl _, rfl⟩) fun _ _ hs => ?_
      subst hs
      exact relays_yieldAll _
    | badGateway | cancelled | generatorExit => exact .raise h
  · exact .ret (.inr (by rw [h]))

theorem quiet_orRelease {α : Type} {w : String} {p : Co K α} (hp : relaying.Quiet p) :
    relaying.Quiet (orRelease w p) := by
  refine Prog.Only.bind hp.attempt fun y => ?_
  rcases y with e | a
  · cases e with
    | exception f => exact Prog.Only.bind (Prog.Only.call fun _ => ⟨rfl, rfl, rfl⟩) fun _ => Prog.Only.raise _
    | badGateway | cancelled | generatorExit => exact Prog.Only.raise _
  · exact Prog.Only.ret _

section Field

variable [Field K]

theorem quiet_elapsedMs {t0 : K} : relaying.Quiet (elapsedMs t0 : Co K K) :=
  Prog.Only.bind (Prog.Only.call fun _ => ⟨rfl, rfl, rfl⟩) fun _ => Prog.Only.ret _

theorem quiet_closeOut {w : String} {t0 : K} {tokens : Int} {clientGone streamOk : Bool} :
    relaying.Quiet (closeOut w t0 tokens clientGone streamOk) := by
  refine Prog.Only.bind quiet_elapsedMs fun _ => Prog.Only.bind (Prog.Only.ask fun _ => ⟨rfl, rfl, rfl⟩) fun _ => ?_
  split <;> exact Prog.Only.call fun _ => ⟨rfl, rfl, rfl⟩

theorem relays_relayGen {w : String} {t0 : K} {tokens : Int} : Relays {} (relayGen w t0 tokens) := by
  refine Monitor.InTurn.bind inTurn_tryRelay fun r s hs => ?_
  refine Monitor.InTurn.bind (Q := fun _ s' => s'.Settled) ?_ fun outcome' s' hs' => ?_
  · refine (inTurn_onException hs).attempt.mono (fun y s' hy => ?_) fun _ _ h => h
    cases y <;> exact hy
  · exact relays_of_quiet (Prog.Only.bind quiet_closeOut fun _ => Prog.Only.ofExcept _) hs'

theorem quiet_refused {w : String} {t0 : K} {tokens : Int} {status : Nat} :
    relaying.Quiet (refused w t0 tokens status) := by
  refine Prog.Only.bind (Prog.Only.ask fun _ => ⟨rfl, rfl, rfl⟩) fun _ =>
    Prog.Only.bind (Prog.Only.ask fun _ => ⟨rfl, rfl, rfl⟩) fun _ => Prog.Only.bind quiet_elapsedMs fun _ =>
      Prog.Only.bind (Prog.Only.call fun _ => ⟨rfl, rfl, rfl⟩) fun _ => Prog.Only.bind ?_ fun _ => Prog.Only.ret _
  unfold noteServerError
  split
  · exact Prog.Only.bind (Prog.Only.call fun _ => ⟨rfl, rfl, rfl⟩) fun _ => Prog.Only.ret _
  · exact Prog.Only.ret _

variable [LinearOrder K] [FloorRing K]

theorem relays_admitted {G : DioGateway K} {body : Obj} {path : Path} {mediaType prompt : String} {tokens : Int}
    {w : String} {d : RoutingDecision K} :
    Relays {} (serve (relayAdmitted G body path mediaType prompt tokens w d)) := by
  unfold relayAdmitted openedStream
  simp only [serve_bind]
  refine .after quiet_py fun b => .after (Prog.Only.call fun _ => ⟨rfl, rfl, rfl⟩) fun t0 =>
    .after (Prog.Only.ask fun _ => ⟨rfl, rfl, rfl⟩) fun _ =>
      .after (quiet_orRelease (Prog.Only.ask fun _ => ⟨rfl, rfl, rfl⟩)) fun status => ?_
  split
  · rw [serve_bind]
    refine .after quiet_refused fun raw => relays_of_quiet ?_ settled_empty
    unfold relayRefusal jsonResponse
    rw [serve_bind]
    refine Prog.Only.bind ?_ fun _ => Prog.Only.ret _
    split
    · exact Prog.Only.ret _
    · exact quiet_py
  · rw [serve_streamingResponse]
    split
    · exact relays_relayGen
    · exact relays_of_quiet quiet_py settled_empty

theorem headersOk_retryAfter (e : AdmissionError) : headersOk (retryAfter e) = true := by
  show (latin1 (toString e.retryAfterSec) && true) = true
  rw [latin1_int]
  rfl

/-- Whatever the engine, the client and the scheduler do, a stream is relayed verbatim: what the client was sent is at
any moment a first part of what the engine sent, with the event that a rejected or a broken stream ends with after it;
it is all of that when the client stays to the end, and nothing is sent to a client that has closed the stream. -/
theorem relay_verbatim (G : DioGateway K) (body : Obj) (path : Path) (tier : String) (allowed : Option (List String))
    (mediaType : String) {t : List (Event (sig K))} {x : Except Exn Unit}
    (h : (serve (relayStream G body path tier allowed mediaType)).Exec t x) : relaying.Copied t := by
  rw [relayStream, serve_admission] at h
  rcases exec_admission h with ⟨rfl, -⟩ | ⟨prompt, tokens, -, -, ⟨e, t', rfl, h'⟩ | ⟨w, d, t', rfl, h'⟩⟩
  · exact Copy.copied_of_run rfl settled_empty
  · rw [serve_streamingResponse, if_pos (headersOk_retryAfter e)] at h'
    exact (relays_yieldAll (rejectionFrames e)).copied rfl rfl rfl h'
  · exact relays_admitted.copied rfl rfl rfl h'

/-! ## Examples -/

/-- The relay of two chunks of a stream that then breaks. -/
def brokenRelay : List (Event (sig ℚ)) :=
  (Prog.run (Answers.env { chunks := [[104], [105]], iterEnd := .raised "reset" })
    (serve (relayStream oneBackend hello .completions "small" none "text/event-stream"))).1

theorem relay_verbatim_reset : (brokenRelay.filterMap sentFrame).length = 4 ∧ relaying.Copied brokenRelay :=
  ⟨by decide +kernel,
    relay_verbatim oneBackend hello .completions "small" none "text/event-stream" (Prog.exec_run _ _)⟩

end Field

end Dio.Gateway
