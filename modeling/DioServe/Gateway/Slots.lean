/-
Who closes an admitted request, and when nobody does. Each handler is taken apart phase by phase: a
phase either leaves the request open, or closes it exactly once, or loses it because a call was
answered in a way the handler does not catch.
-/
import DioServe.Effect.Settle
import DioServe.Gateway.Endpoints

namespace Dio.Gateway

open Data Py Effect Scheduler

variable {K : Type}

/-! ## Inert calls -/

/-- The calls that neither close a request nor can keep a handler from closing it. -/
def Call.inert : Call K → Bool
  | .noteFailure _ | .perfCounter | .time | .aiterBytes | .iterEnd | .yield _ => true
  | _ => false

/-- A program of inert calls only. -/
def Inert {α : Type} (p : Co K α) : Prop := Prog.Only (fun ev => Call.inert ev.op = true) p

theorem inert_py {α : Type} {y : Except PyErr α} : Inert (py y : Co K α) := Prog.Only.ofExcept _

theorem inert_noteFailure {w : String} : Inert (noteFailure w : Co K Bool) := Prog.Only.call fun _ => rfl

theorem inert_yieldAll {frames : List Frame} : Inert (yieldAll frames : Co K Unit) :=
  Prog.Only.forEach (fun _ => Prog.Only.ask fun _ => rfl) frames

theorem inert_noteServerError {w : String} {status : Nat} : Inert (noteServerError w status : Co K Unit) := by
  unfold noteServerError
  split
  · exact Prog.Only.bind inert_noteFailure fun _ => Prog.Only.ret _
  · exact Prog.Only.ret _

theorem inert_jsonResponse {r : JsonResponse K} : Inert (jsonResponse r) := by
  unfold jsonResponse
  split
  · exact Prog.Only.ret _
  · exact inert_py

theorem inert_relayChunks : Inert (relayChunks : Co K Unit) :=
  Prog.Only.bind (Prog.Only.call fun _ => rfl) fun _ =>
    Prog.Only.bind inert_yieldAll fun _ => Prog.Only.ask fun _ => rfl

theorem inert_translateChunks {G : DioGateway K} {p : TranslParams} : ∀ {chunks : List (List UInt8)}
    {st : Text.Lines.Feed Transl}, Inert (translateChunks G p st chunks)
  | [], _ => Prog.Only.bind (Prog.Only.ask fun _ => rfl) fun _ => Prog.Only.ret _
  | _ :: _, _ => by
    unfold translateChunks
    refine Prog.Only.bind inert_yieldAll fun _ => ?_
    split
    · exact Prog.Only.ret _
    · exact inert_translateChunks

theorem inert_readOllama {G : DioGateway K} {p : TranslParams} : Inert (readOllama G p) :=
  Prog.Only.bind (Prog.Only.call fun _ => rfl) fun _ => inert_translateChunks

theorem inert_finishOllama {p : TranslParams} {st : Text.Lines.Feed Transl} : Inert (finishOllama p st : Co K Unit) :=
  Prog.Only.bind (Prog.Only.call fun _ => rfl) fun _ => Prog.Only.ask fun _ => rfl

theorem inert_onException {w : String} {report : String → List Frame} {outcome : Except Exn Unit} :
    Inert (onException w report outcome : Co K Unit) := by
  unfold onException
  split
  · exact Prog.Only.ret _
  · exact Prog.Only.bind inert_noteFailure fun _ => inert_yieldAll
  · exact Prog.Only.raise _

theorem inert_tryStream {α : Type} {read : Co K α} {finish : α → Co K Unit} (hr : Inert read)
    (hf : ∀ a, Inert (finish a)) : Inert (tryStream read finish) := by
  unfold tryStream
  refine Prog.Only.bind (Prog.Only.attempt hr) fun r => ?_
  cases r with
  | ok a => exact Prog.Only.bind (Prog.Only.attempt (hf a)) fun _ => Prog.Only.ret _
  | error e => exact Prog.Only.ret _

/-! ## Slots -/

/-- Whether an event gives back a slot of `w`. -/
def closing (w : String) : Event (sig K) → Nat
  | ⟨.feedback w' _ _ _, _⟩ => if w' = w then 1 else 0
  | ⟨.release w', _⟩ => if w' = w then 1 else 0
  | _ => 0

/-- How often a history gives back a slot of `w`. -/
def closings (w : String) (t : List (Event (sig K))) : Nat := Machine.weight (closing w) t

/-- The slot of an admitted request on `w`. -/
def slot (w : String) (lost : Event (sig K) → Bool) : Obligation (sig K) := ⟨closing w, fun ev => lost ev = true⟩

theorem closing_inert (w : String) {ev : Event (sig K)} (h : Call.inert ev.op = true) : closing w ev = 0 := by
  obtain ⟨c, r⟩ := ev
  cases c <;> first | rfl | cases h

/-! ## Phases -/

/-- An exception that `except Exception` does not catch. -/
def Interrupts (e : Exn) : Prop := ∀ f, e ≠ .exception f

/-- Closing a request on `w` settles the obligation; inert calls leave it alone. -/
structure ClosesOn (O : Obligation (sig K)) (w : String) : Prop where
  inert : ∀ ev : Event (sig K), Call.inert ev.op = true → O.weigh ev = 0 ∧ ¬ O.lost ev
  feedback : ∀ e2eMs tokens success, O.weigh ⟨.feedback w e2eMs tokens success, ()⟩ = 1 ∧
    ¬ O.lost ⟨.feedback w e2eMs tokens success, ()⟩
  release : O.weigh ⟨.release w, ()⟩ = 1 ∧ ¬ O.lost ⟨.release w, ()⟩

/-- What `orRelease` does after an exception it does not catch. -/
theorem uncaught {α : Type} {w : String} {e : Exn} (he : Interrupts e) {t : List (Event (sig K))} {x : Except Exn α}
    (h : Prog.Exec (match (Except.error e : Except Exn α) with
      | .ok a => (pure a : Co K α)
      | .error (.exception f) => do
        release w
        Prog.raise (.badGateway w f)
      | .error e => Prog.raise e) t x) : t = [] ∧ x = .error e := by
  cases e with
  | exception f => exact absurd rfl (he f)
  | badGateway _ _ => exact h
  | cancelled => exact h
  | generatorExit => exact h

theorem closesOn_slot {w : String} {lost : Event (sig K) → Bool} (hi : ∀ ev, Call.inert ev.op = true → lost ev = false)
    (hf : ∀ e2eMs tokens success, lost ⟨.feedback w e2eMs tokens success, ()⟩ = false)
    (hr : lost ⟨.release w, ()⟩ = false) : ClosesOn (slot w lost) w :=
  ⟨fun ev h => ⟨closing_inert w h, by simp [slot, hi ev h]⟩, fun _ _ _ => ⟨by simp [slot, closing], by simp [slot, hf]⟩,
    ⟨by simp [slot, closing], by simp [slot, hr]⟩⟩

section Phases

variable {O : Obligation (sig K)} {w : String} (hO : ClosesOn O w)

include hO

theorem ClosesOn.quiet {α : Type} {p : Co K α} (hp : Inert p) {t : List (Event (sig K))} {x : Except Exn α}
    (h : p.Exec t x) : O.Quiet t :=
  Obligation.quiet_of_forall fun ev hev => hO.inert ev (hp t x h ev hev)

theorem ClosesOn.tracks {α : Type} {p : Co K α} (hp : Inert p)
    (hno : ∀ t e, p.Exec t (.error e) → ¬ Interrupts e) : O.Tracks Interrupts p := by
  intro t x h
  obtain ⟨hw, hl⟩ := hO.quiet hp h
  refine ⟨hw, ?_⟩
  constructor
  · rintro ⟨e, rfl, he⟩; exact absurd he (hno t e h)
  · rintro ⟨ev, hev, hlost⟩; exact absurd hlost (hl ev hev)

/-- A call upstream inside `orRelease`: it succeeds and leaves the request open, or the request is
accounted for. -/
theorem ClosesOn.orRelease {α : Type} {p : Co K α} (hp : O.Tracks Interrupts p) {t : List (Event (sig K))}
    {x : Except Exn α} (h : (Gateway.orRelease w p).Exec t x) :
    (∃ a, x = .ok a ∧ p.Exec t (.ok a) ∧ O.Quiet t) ∨ (∃ e, x = .error e) ∧ O.Accounted t := by
  obtain ⟨y, t₁, t₂, h1, h2, rfl⟩ := (Prog.exec_attempt_bind _ _ _ _).1 h
  cases y with
  | ok a =>
    obtain ⟨rfl, rfl⟩ := h2
    rw [List.append_nil]
    exact .inl ⟨a, rfl, h1, hp.quiet_of_ok h1⟩
  | error e =>
    obtain ⟨hw, hl⟩ := hp _ _ h1
    right
    by_cases hi : Interrupts e
    · -- not caught: the slot stays taken
      obtain ⟨rfl, rfl⟩ := uncaught hi h2
      rw [List.append_nil]
      exact ⟨⟨e, rfl⟩, .inr ⟨hw, hl.1 ⟨e, rfl, hi⟩⟩⟩
    · obtain ⟨f, rfl⟩ : ∃ f, e = .exception f := by simpa [Interrupts] using hi
      have hquiet : O.Quiet t₁ := ⟨hw, fun ev hev hlost => by
        obtain ⟨e, he, hi'⟩ := hl.2 ⟨ev, hev, hlost⟩
        cases he; exact hi hi'⟩
      simp only [Prog.exec_bind, exec_release, Prog.exec_raise] at h2
      rcases h2 with ⟨a, t₂, t₃, ⟨rfl, -⟩, ⟨rfl, rfl⟩, rfl⟩ | ⟨e, ⟨-, he⟩, -⟩
      · exact ⟨⟨_, rfl⟩, hquiet.append_accounted (Obligation.accounted_settle hO.release.1 hO.release.2)⟩
      · cases he

theorem ClosesOn.tracks_py {α : Type} (y : Except PyErr α) : O.Tracks Interrupts (py y : Co K α) := by
  refine hO.tracks inert_py fun t e h hi => ?_
  obtain ⟨-, he⟩ := (exec_py t y _).1 h
  cases y with
  | ok a => cases he
  | error e' => cases he; exact hi _ rfl

theorem ClosesOn.idle {α : Type} {p : Co K α} (hp : Inert p) : O.Idle p := fun t x h ev hev =>
  hO.inert ev (hp t x h ev hev)

end Phases

/-- A computation with the built-ins that succeeds. -/
theorem py_ok_bind {α β : Type} (a : α) (f : α → Co K β) : py (.ok a) >>= f = f a := rfl

theorem noRaise_noteServerError {w : String} {status : Nat} : (noteServerError w status : Co K Unit).NoRaise := by
  unfold noteServerError
  split
  · exact Prog.NoRaise.bind (Prog.NoRaise.call _) fun _ => Prog.NoRaise.ret _
  · exact Prog.NoRaise.ret _

/-! ## Admission -/

theorem ok_of_mapError {α ε ε' : Type} {f : ε → ε'} {y : Except ε α} {a : α} (h : y.mapError f = .ok a) : y = .ok a := by
  cases y with
  | ok b => cases h; rfl
  | error e => cases h

/-- Calls other than `pick`. -/
def Call.pickless : Call K → Bool
  | .pick _ => false
  | _ => true

/-- A program that asks for no worker. -/
def Pickless {α : Type} (p : Co K α) : Prop := Prog.Only (fun ev => Call.pickless ev.op = true) p

/-- Calls that neither ask for a worker nor send anything upstream. -/
def Call.plain : Call K → Bool
  | .pick _ | .post .. | .buildRequest .. | .send _ => false
  | _ => true

/-- A program of plain calls only. -/
def Plain {α : Type} (p : Co K α) : Prop := Prog.Only (fun ev => Call.plain ev.op = true) p

theorem Inert.plain {α : Type} {p : Co K α} (h : Inert p) : Plain p :=
  Prog.Only.mono h fun ev hev => by
    obtain ⟨c, r⟩ := ev
    cases c <;> first | rfl | cases hev

theorem Call.pickless_of_plain {c : Call K} (h : c.plain = true) : c.pickless = true := by
  cases c <;> first | rfl | cases h

theorem Plain.pickless {α : Type} {p : Co K α} (h : Plain p) : Pickless p :=
  Prog.Only.mono h fun _ => Call.pickless_of_plain

theorem only_orRelease {α : Type} {P : Event (sig K) → Prop} {w : String} {p : Co K α} (h : Prog.Only P p)
    (hr : P ⟨.release w, ()⟩) : Prog.Only P (Gateway.orRelease w p) := by
  refine Prog.Only.bind (Prog.Only.attempt h) fun r => ?_
  match r with
  | .ok a => exact Prog.Only.ret _
  | .error (.exception f) => exact Prog.Only.bind (Prog.Only.call fun _ => hr) fun _ => Prog.Only.raise _
  | .error (.badGateway _ _) => exact Prog.Only.raise _
  | .error .cancelled => exact Prog.Only.raise _
  | .error .generatorExit => exact Prog.Only.raise _

/-- A proxy fails before it asks for a worker, is refused one, or is admitted. -/
theorem exec_admission {α : Type} {G : DioGateway K} {body : Obj} {tier : String} {allowed : Option (List String)}
    {reject : AdmissionError → Co K α} {accept : String → Int → String → RoutingDecision K → Co K α}
    {t : List (Event (sig K))} {x : Except Exn α} (h : (admission G body tier allowed reject accept).Exec t x) :
    (t = [] ∧ ∃ e, x = .error e) ∨ ∃ prompt tokens, extractPrompt G.U body = .ok prompt ∧
      featureTokens G.U G.tokenizer G.tokenFeatureCap prompt body = .ok tokens ∧
      ((∃ e t', t = ⟨.pick ⟨prompt, tier, some tokens, allowed⟩, .error e⟩ :: t' ∧ (reject e).Exec t' x) ∨
        ∃ w d t', t = ⟨.pick ⟨prompt, tier, some tokens, allowed⟩, .ok (w, d)⟩ :: t' ∧
          (accept prompt tokens w d).Exec t' x) := by
  unfold admission at h
  rcases (Prog.exec_ofExcept_bind _ _ _ _).1 h with ⟨prompt, hp, h⟩ | ⟨e, -, rfl, hx⟩
  · rcases (Prog.exec_ofExcept_bind _ _ _ _).1 h with ⟨tokens, ht, h⟩ | ⟨e, -, rfl, hx⟩
    · refine .inr ⟨prompt, tokens, ok_of_mapError hp, ok_of_mapError ht, ?_⟩
      obtain ⟨(e | ⟨w, d⟩), t', rfl, h'⟩ := (Prog.exec_call_bind (S := sig K) _ _ _ _).1 h
      · exact .inl ⟨e, t', rfl, h'⟩
      · exact .inr ⟨w, d, t', rfl, h'⟩
    · exact .inl ⟨rfl, e, hx⟩
  · exact .inl ⟨rfl, e, hx⟩

/-- The worker a proxy is admitted on, when a rejected proxy and an admitted one ask for none. -/
theorem exec_admission_on {α : Type} {G : DioGateway K} {body : Obj} {tier : String} {allowed : Option (List String)}
    {reject : AdmissionError → Co K α} {accept : String → Int → String → RoutingDecision K → Co K α}
    (hr : ∀ e, Pickless (reject e)) (ha : ∀ prompt tokens w d, Pickless (accept prompt tokens w d))
    {t : List (Event (sig K))} {x : Except Exn α} (h : (admission G body tier allowed reject accept).Exec t x)
    {a : PickArgs} {w : String} {d : RoutingDecision K} (hpick : ⟨.pick a, .ok (w, d)⟩ ∈ t) :
    ∃ prompt tokens t', extractPrompt G.U body = .ok prompt ∧
      featureTokens G.U G.tokenizer G.tokenFeatureCap prompt body = .ok tokens ∧
      a = ⟨prompt, tier, some tokens, allowed⟩ ∧ t = ⟨.pick a, .ok (w, d)⟩ :: t' ∧
      (accept prompt tokens w d).Exec t' x := by
  rcases exec_admission h with ⟨rfl, -⟩ | ⟨prompt, tokens, hp, ht, ⟨e, t', rfl, h'⟩ | ⟨w', d', t', rfl, h'⟩⟩
  · cases hpick
  · rcases List.mem_cons.1 hpick with he | hmem
    · cases he
    · exact absurd (hr e _ _ h' _ hmem) (by simp [Call.pickless])
  · rcases List.mem_cons.1 hpick with he | hmem
    · cases he; exact ⟨prompt, tokens, t', hp, ht, rfl, rfl, h'⟩
    · exact absurd (ha _ _ _ _ _ _ h' _ hmem) (by simp [Call.pickless])

variable [Field K]

theorem inert_elapsedMs {t0 : K} : Inert (elapsedMs t0) :=
  Prog.Only.bind (Prog.Only.call fun _ => rfl) fun _ => Prog.Only.ret _

theorem noRaise_elapsedMs {t0 : K} : (elapsedMs t0).NoRaise :=
  Prog.NoRaise.bind (Prog.NoRaise.call _) fun _ => Prog.NoRaise.ret _

variable [LinearOrder K] [FloorRing K]

theorem inert_normalizeTgi {data model : Json} {promptTokens : Int} :
    Inert (normalizeTgi data model promptTokens : Co K Json) := by
  unfold normalizeTgi
  refine Prog.Only.bind inert_py fun parts => Prog.Only.bind inert_py fun _ => ?_
  exact Prog.Only.bind (Prog.Only.call fun _ => rfl) fun _ =>
    Prog.Only.bind (Prog.Only.call fun _ => rfl) fun _ => Prog.Only.ret _

theorem inert_normalized {G : DioGateway K} {b : Backend} {body : Obj} {path : Path} {prompt : String} {status : Nat}
    {data : Json} : Inert (normalized G b body path prompt status data) := by
  unfold normalized
  split
  · exact inert_normalizeTgi
  · exact Prog.Only.ret _

theorem inert_readReply {G : DioGateway K} {b : Backend} {body : Obj} {path : Path} {prompt : String}
    {resp : UpstreamResponse} : Inert (readReply G b body path prompt resp) := by
  unfold readReply parseReply
  refine Prog.Only.bind (Prog.Only.attempt (Prog.Only.bind inert_py fun data =>
    Prog.Only.bind inert_normalized fun _ => Prog.Only.bind inert_py fun _ => Prog.Only.ret _)) fun r => ?_
  cases r <;> exact Prog.Only.ret _

theorem noRaise_readReply {G : DioGateway K} {b : Backend} {body : Obj} {path : Path} {prompt : String}
    {resp : UpstreamResponse} : (readReply G b body path prompt resp).NoRaise :=
  Prog.NoRaise.bind (Prog.NoRaise.attempt _) fun r => by cases r <;> exact Prog.NoRaise.ret _

/-! ## A gateway with one backend -/

/-- How an environment answers, whatever it is asked. -/
structure Answers where
  post : Outcome UpstreamResponse := .returned ⟨200, some (.obj []), ""⟩
  build : Except String Unit := .ok ()
  send : Attempt → Outcome Nat := fun _ => .returned 200
  aread : Outcome (List UInt8) := .returned []
  aclose : Outcome Unit := .returned ()
  chunks : List (List UInt8) := []
  iterEnd : Outcome Unit := .returned ()
  resume : Resume := .next

/-- A decision for `gpu0`. -/
def decisionOn : RoutingDecision ℚ := ⟨"gpu0", 0, 0, 0, 0, 0, 0, 1, .roundRobin, 0, 0, 0, 0, false⟩

/-- Every request is admitted on `gpu0`. -/
def Answers.env (A : Answers) : (c : Call ℚ) → c.Res
  | .pick _ => .ok ("gpu0", decisionOn)
  | .feedback .. => ()
  | .release _ => ()
  | .noteFailure _ => false
  | .perfCounter => (0 : ℚ)
  | .time => (0 : ℚ)
  | .post .. => A.post
  | .buildRequest .. => A.build
  | .send n => A.send n
  | .aread _ => A.aread
  | .aclose _ => A.aclose
  | .aiterBytes => A.chunks
  | .iterEnd => A.iterEnd
  | .yield _ => A.resume

/-- A gateway with the backend `gpu0` and no caps. -/
def oneBackend : DioGateway ℚ where
  U := Unicode.ascii
  pool := .ofList [{ id := "gpu0", baseUrl := "http://a" }]
  modelMap := ⟨[], List.nodup_nil⟩
  tokenizer := none
  maxTokensCap := 0
  promptCharsCap := 0
  tokenFeatureCap := 0
  requestTimeoutS := .fin 120
  sloMs := 5000

/-- A completion request. -/
def hello : Obj := [("prompt", .str "hello")]

end Dio.Gateway
