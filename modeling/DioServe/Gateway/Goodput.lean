/-
Engine-side failures and the counter `failed_total`: a request whose last upstream answer is a
failure is counted exactly once, unless a call raised before any answer could be recorded or an
error reply could not be read out and closed.
-/
import DioServe.Gateway.Dispatch

namespace Dio.Gateway

open Data Py Effect Scheduler

variable {K : Type}

/-! ## Verdicts -/

def Outcome.failed {α : Type} (bad : α → Bool) : Outcome α → Bool
  | .returned a => bad a
  | .raised _ => true
  | .cancelled => false

/-- What an answer says of the engine: an error status or an exception is a failure. -/
def verdict : Event (sig K) → Option Bool
  | ⟨.post _ _, r⟩ => some (Outcome.failed (fun resp : UpstreamResponse => decide (400 ≤ resp.status)) r)
  | ⟨.send _, r⟩ => some (Outcome.failed (fun status : Nat => decide (400 ≤ status)) r)
  | ⟨.iterEnd, r⟩ => some (Outcome.failed (fun _ : Unit => false) r)
  | _ => none

/-- The last the request hears of the engine is a failure. -/
def EngineFailed (t : List (Event (sig K))) : Prop := (t.filterMap verdict).getLast? = some true

instance (t : List (Event (sig K))) : Decidable (EngineFailed t) :=
  inferInstanceAs (Decidable ((t.filterMap verdict).getLast? = some true))

theorem not_engineFailed_nil : ¬ EngineFailed ([] : List (Event (sig K))) := by simp [EngineFailed]

theorem engineFailed_singleton (ev : Event (sig K)) : EngineFailed [ev] ↔ verdict ev = some true := by
  cases h : verdict ev <;> simp [EngineFailed, h]

theorem engineFailed_append (t t' : List (Event (sig K))) :
    EngineFailed (t ++ t') ↔ EngineFailed t' ∨ (t'.filterMap verdict = [] ∧ EngineFailed t) := by
  unfold EngineFailed
  rw [List.filterMap_append, List.getLast?_append]
  cases h : (t'.filterMap verdict).getLast? with
  | none => rw [List.getLast?_eq_none_iff] at h; simp [h]
  | some v =>
    have hne : t'.filterMap verdict ≠ [] := fun he => by rw [he] at h; cases h
    simp [hne]

/-- A program that hears nothing of the engine. -/
def Mute {α : Type} (p : Co K α) : Prop := Prog.Only (fun ev => verdict ev = none) p

theorem Mute.filterMap {α : Type} {p : Co K α} (hp : Mute p) {t : List (Event (sig K))} {x : Except Exn α}
    (h : p.Exec t x) : t.filterMap verdict = [] := List.filterMap_eq_nil_iff.2 (hp _ _ h)

theorem Mute.not_engineFailed {α : Type} {p : Co K α} (hp : Mute p) {t : List (Event (sig K))} {x : Except Exn α}
    (h : p.Exec t x) : ¬ EngineFailed t := by
  simp [EngineFailed, hp.filterMap h]

/-- What is heard last before a mute program is heard last after it. -/
theorem Mute.engineFailed_append {α : Type} {p : Co K α} (hp : Mute p) {t t' : List (Event (sig K))} {x : Except Exn α}
    (h : p.Exec t' x) : EngineFailed (t ++ t') ↔ EngineFailed t := by
  rw [Gateway.engineFailed_append]
  simp [hp.not_engineFailed h, hp.filterMap h]

theorem engineFailed_cons {ev : Event (sig K)} (hev : verdict ev = none) (t : List (Event (sig K))) :
    EngineFailed (ev :: t) ↔ EngineFailed t := by
  simp [EngineFailed, hev]

/-! ## Counting failures -/

/-- Whether an event counts a failed request. -/
def failing : Event (sig K) → Nat
  | ⟨.feedback _ _ _ false, _⟩ => 1
  | _ => 0

/-- A call was answered in a way that keeps a failed request from being counted. -/
def unbooked : Event (sig K) → Bool
  | ⟨.post _ _, r⟩ => Outcome.isRaised r
  | ⟨.send _, r⟩ => Outcome.isRaised r
  | ⟨.buildRequest .again _, r⟩ => !Except.isOk r
  | ⟨.aread _, r⟩ => !Outcome.isReturned r
  | ⟨.aclose _, r⟩ => !Outcome.isReturned r
  | _ => false

/-- The obligation to count a failed request. -/
def booking : Obligation (sig K) := ⟨failing, fun ev => unbooked ev = true⟩

theorem booking_inert (ev : Event (sig K)) (h : Call.inert ev.op = true) : booking.weigh ev = 0 ∧ ¬ booking.lost ev := by
  obtain ⟨c, r⟩ := ev
  cases c <;> first | exact ⟨rfl, Bool.false_ne_true⟩ | cases h

theorem booking_idle {α : Type} {p : Co K α} (hp : Inert p) : booking.Idle p := fun t x h ev hev =>
  booking_inert ev (hp t x h ev hev)

/-- A failed request is counted. -/
theorem booking_feedback (w : String) (e2eMs : K) (tokens : Int) :
    booking.Accounts (feedback w e2eMs tokens false) :=
  Obligation.Accounts.settle fun _ => ⟨rfl, Bool.false_ne_true⟩

/-! ## Judged calls -/

/-- The last word of the engine. -/
def lastVerdict (t : List (Event (sig K))) : Option Bool := (t.filterMap verdict).getLast?

theorem lastVerdict_append (t t' : List (Event (sig K))) :
    lastVerdict (t ++ t') = (lastVerdict t').or (lastVerdict t) := by
  rw [lastVerdict, List.filterMap_append, List.getLast?_append]; rfl

/-- What calls upstream leave behind that end with the engine's word: on success it is the status handed
on, and nothing is counted or lost; on an exception nothing is counted, and the failure is lost or there
is none. -/
def Decided {α : Type} (status : α → Nat) (t : List (Event (sig K))) : Except Exn α → Prop
  | .ok a => booking.Quiet t ∧ lastVerdict t = some (decide (400 ≤ status a))
  | .error _ => Machine.weight failing t = 0 ∧ ((∃ ev ∈ t, unbooked ev = true) ∨ lastVerdict t = some false)

/-- What came before does not matter, if nothing was counted or lost. -/
theorem Decided.append {α : Type} {status : α → Nat} {t t' : List (Event (sig K))} {x : Except Exn α}
    (ht : booking.Quiet t) (h : Decided status t' x) : Decided status (t ++ t') x := by
  have hw : Machine.weight failing t = 0 := ht.1
  cases x with
  | ok a => exact ⟨ht.append h.1, by rw [lastVerdict_append, h.2]; rfl⟩
  | error e =>
    refine ⟨by simp [hw, h.1], h.2.imp ?_ fun hv => by rw [lastVerdict_append, hv]; rfl⟩
    rintro ⟨ev, hev, hl⟩
    exact ⟨ev, List.mem_append_right _ hev, hl⟩

/-- Calls upstream that end with the engine's word. -/
def Decisive {α : Type} (status : α → Nat) (p : Co K α) : Prop := ∀ t x, p.Exec t x → Decided status t x

theorem decisive_send (n : Attempt) : Decisive id (send n : Co K Nat) := by
  intro t x h
  obtain ⟨r, rfl, rfl⟩ := (exec_send t n x).1 h
  cases r with
  | returned status => exact ⟨Obligation.quiet_cons rfl Bool.false_ne_true Obligation.quiet_nil, rfl⟩
  | raised text => exact ⟨rfl, .inl ⟨_, List.mem_singleton_self _, rfl⟩⟩
  | cancelled => exact ⟨rfl, .inr rfl⟩

theorem decisive_post (n : Attempt) (request : HttpRequest) :
    Decisive UpstreamResponse.status (post n request : Co K UpstreamResponse) := by
  intro t x h
  obtain ⟨r, rfl, rfl⟩ := (exec_post t n request x).1 h
  cases r with
  | returned resp => exact ⟨Obligation.quiet_cons rfl Bool.false_ne_true Obligation.quiet_nil, rfl⟩
  | raised text => exact ⟨rfl, .inl ⟨_, List.mem_singleton_self _, rfl⟩⟩
  | cancelled => exact ⟨rfl, .inr rfl⟩

theorem Decisive.after_ask {α β : Type} {status : α → Nat} {o : Call K} {f : o.Res → Except Exn β} {k : β → Co K α}
    (hw : ∀ r, failing ⟨o, r⟩ = 0) (hl : ∀ r, unbooked (⟨o, r⟩ : Event (sig K)) = true ↔ ∃ e, f r = .error e)
    (hk : ∀ b, Decisive status (k b)) : Decisive status (Prog.ask (S := sig K) o f >>= k) := by
  intro t x h
  rcases (Prog.exec_bind _ _ _ _).1 h with ⟨b, t₁, t₂, h1, h2, rfl⟩ | ⟨e, h1, rfl⟩
  · obtain ⟨r, rfl, hr⟩ := (Prog.exec_ask _ _ _ _).1 h1
    have hno : ¬ unbooked (⟨o, r⟩ : Event (sig K)) = true := fun h => by
      obtain ⟨e, he⟩ := (hl r).1 h
      rw [he] at hr; cases hr
    exact (hk b _ _ h2).append (Obligation.quiet_cons (hw r) hno Obligation.quiet_nil)
  · obtain ⟨r, rfl, hr⟩ := (Prog.exec_ask _ _ _ _).1 h1
    exact ⟨by simp [hw], .inl ⟨_, List.mem_singleton_self _, (hl r).2 ⟨e, hr.symm⟩⟩⟩

theorem decisive_openOllama {G : DioGateway K} {b : Backend} {path : Path} {payload : Obj} :
    Decisive id (openOllama G b path payload) := by
  intro t x h
  rcases (Prog.exec_bind _ _ _ _).1 h with ⟨status, t₁, t₂, h1, h2, rfl⟩ | ⟨e, h1, rfl⟩
  · have hfirst := decisive_send _ _ _ h1
    split at h2
    · have hretry : Decisive (K := K) id (do
          let _ ← aread .retry
          aclose .retry
          buildRequest .again (streamRequest G b path (Dict.erase payload "stream_options"))
          send .again) := by
        refine Decisive.after_ask (fun _ => rfl) not_isReturned fun _ =>
          Decisive.after_ask (fun _ => rfl) not_isReturned fun _ =>
            Decisive.after_ask (fun _ => rfl) (fun r => ?_) fun _ => decisive_send .again
        cases r <;> simp [unbooked, Except.isOk, Except.toBool, Except.mapError]
      exact (hretry _ _ h2).append hfirst.1
    · obtain ⟨rfl, rfl⟩ := h2
      rw [List.append_nil]
      exact hfirst
  · exact decisive_send _ _ _ h1

/-- What calls upstream leave behind, as far as a failed request is concerned. -/
def Judged {α : Type} (status : α → Nat) (t : List (Event (sig K))) : Except Exn α → Prop
  | .ok a => booking.Quiet t ∧ (EngineFailed t ↔ 400 ≤ status a)
  | .error _ => Machine.weight failing t = 0 ∧ (EngineFailed t → ∃ ev ∈ t, unbooked ev = true)

theorem Decided.judged {α : Type} {status : α → Nat} {t : List (Event (sig K))} {x : Except Exn α}
    (h : Decided status t x) : Judged status t x := by
  cases x with
  | ok a =>
    refine ⟨h.1, ?_⟩
    rw [EngineFailed, show (t.filterMap verdict).getLast? = some (decide (400 ≤ status a)) from h.2]
    simp
  | error e =>
    refine ⟨h.1, fun hf => h.2.resolve_right fun hv => ?_⟩
    rw [lastVerdict, show (t.filterMap verdict).getLast? = some true from hf] at hv
    cases hv

theorem judged_orRelease {α : Type} {status : α → Nat} {p : Co K α} {w : String}
    (hp : ∀ t x, p.Exec t x → Judged status t x) {t : List (Event (sig K))} {x : Except Exn α}
    (h : (orRelease w p).Exec t x) : Judged status t x := by
  obtain ⟨y, t₁, t₂, h1, h2, rfl⟩ := (Prog.exec_attempt_bind _ _ _ _).1 h
  cases y with
  | ok a =>
    obtain ⟨rfl, rfl⟩ := h2
    rw [List.append_nil]
    exact hp _ _ h1
  | error e =>
    obtain ⟨hw, hf⟩ := hp _ _ h1
    by_cases hi : Interrupts e
    · obtain ⟨rfl, rfl⟩ := uncaught hi h2
      rw [List.append_nil]
      exact ⟨hw, hf⟩
    · obtain ⟨f, rfl⟩ : ∃ f, e = .exception f := by simpa [Interrupts] using hi
      simp only [Prog.exec_bind, exec_release, Prog.exec_raise] at h2
      rcases h2 with ⟨a, t₂, t₃, ⟨rfl, -⟩, ⟨rfl, rfl⟩, rfl⟩ | ⟨e, ⟨-, he⟩, -⟩
      · refine ⟨by simp [hw, failing], fun hfail => ?_⟩
        rw [engineFailed_append] at hfail
        obtain ⟨ev, hev, hl⟩ := hf (hfail.elim (fun h => by simp [EngineFailed, verdict] at h) And.right)
        exact ⟨ev, List.mem_append_left _ hev, hl⟩
      · cases he

/-! ## The JSON path -/

/-- A body that can be translated for TGI as a chat can be translated as the completion it falls back to. -/
theorem translates_fallback {U : Unicode} {body payload : Obj} (h : openaiChatToTgiGenerate U body = .ok payload)
    (prompt : String) : ∃ payload', openaiChatToTgiGenerate U (fallbackBody body prompt) = .ok payload' := by
  obtain ⟨_, -, h⟩ := bind_eq_ok.1 h
  obtain ⟨maxNew, hmax, h⟩ := bind_eq_ok.1 h
  obtain ⟨_, htemp, -⟩ := bind_eq_ok.1 h
  have hinputs : ∃ inputs, tgiInputs U (fallbackBody body prompt) = .ok inputs := ⟨_, rfl⟩
  -- the fallback passes the limit on, or has 64 in its place
  have hmax' : ∃ n, tgiMaxNew U (fallbackBody body prompt) = .ok n := by
    cases hb : Dict.get? body "max_tokens" with
    | none => exact ⟨64, by simp [tgiMaxNew, fallbackBody, Dict.get?, hb, Json.isNull, Json.toInt]⟩
    | some v =>
      cases hv : v.isNull with
      | true =>
        rw [Json.eq_null_of_isNull hv] at hb
        exact ⟨64, by simp [tgiMaxNew, fallbackBody, Dict.get?, hb, Json.isNull]⟩
      | false =>
        refine ⟨maxNew, ?_⟩
        simp only [tgiMaxNew, hb, Option.getD_some, hv, Bool.false_eq_true, if_false] at hmax
        simpa [tgiMaxNew, fallbackBody, Dict.get?, hb, hv] using hmax
  -- and the temperature, or 0.7
  have htemp' : ∀ params, ∃ params', tgiTemperature U (fallbackBody body prompt) params = .ok params' := by
    intro params
    cases hb : Dict.get? body "temperature" with
    | none => exact ⟨_, by simp [tgiTemperature, fallbackBody, Dict.get?, hb, Json.isNull, Json.toFloat]; rfl⟩
    | some v =>
      cases hv : v.isNull with
      | true => exact ⟨_, by simp [tgiTemperature, fallbackBody, Dict.get?, hb, hv]; rfl⟩
      | false =>
        simp only [tgiTemperature, hb, Option.getD_some, hv, Bool.false_eq_true, if_false] at htemp
        obtain ⟨x, hx, -⟩ := bind_eq_ok.1 htemp
        exact ⟨_, by simp [tgiTemperature, fallbackBody, Dict.get?, hb, hv, hx]; rfl⟩
  obtain ⟨inputs, hi⟩ := hinputs
  obtain ⟨n, hn⟩ := hmax'
  obtain ⟨params, hp⟩ := htemp' [("max_new_tokens", .int n), ("do_sample", .bool true)]
  refine ⟨[("inputs", .str inputs), ("parameters", .obj params)], ?_⟩
  refine bind_eq_ok.2 ⟨inputs, hi, bind_eq_ok.2 ⟨n, hn, bind_eq_ok.2 ⟨params, hp, ?_⟩⟩⟩
  rfl

/-- A body the pool could forward as a chat can also fall back to a completion. -/
theorem forward_fallback {U : Unicode} {b : Backend} {body : Obj} {timeout : PyFloat} {request : HttpRequest}
    (h : b.forward U .chat body timeout = .ok request) (prompt : String) :
    ∃ request', b.forward U .completions (fallbackBody body prompt) timeout = .ok request' := by
  obtain ⟨payload, hp, -⟩ := bind_eq_ok.1 (show b.forwardChat U body timeout = .ok request from h)
  have hp' : ∃ payload', b.forwardPayload U (fallbackBody body prompt) = .ok payload' := by
    unfold Backend.forwardPayload at hp ⊢
    split
    · rename_i hstyle
      rw [if_pos hstyle] at hp
      exact translates_fallback hp prompt
    · exact ⟨_, rfl⟩
  obtain ⟨payload', hp'⟩ := hp'
  exact ⟨_, bind_eq_ok.2 ⟨payload', hp', rfl⟩⟩

/-- A body that was forwarded once is forwarded, or an exception says why not; a chat is forwarded a
second time when it falls back. -/
theorem judged_exchange {G : DioGateway K} {w : String} {body : Obj} {path : Path} {prompt : String}
    {t : List (Event (sig K))} {x : Except Exn UpstreamResponse} (h : (exchange G w body path prompt).Exec t x) :
    Judged UpstreamResponse.status t x := by
  have hdecided : ∀ {n path' body' b request t x}, G.pool.get? w = some b →
      b.forward G.U path' body' G.requestTimeoutS = .ok request → (forwardTo G n w path' body').Exec t x →
      Decided UpstreamResponse.status t x := by
    intro n path' body' b request t x hb hr h
    rw [forwardTo, hb, Option.elim_some, py_ok_bind, hr, py_ok_bind] at h
    exact decisive_post _ _ _ _ h
  rcases (Prog.exec_bind _ _ _ _).1 h with ⟨resp, t₁, t₂, h1, h2, rfl⟩ | ⟨e, h1, rfl⟩
  · rcases exec_forwardTo h1 with ⟨-, ⟨_, he⟩, -⟩ | ⟨b, request, -, hb, hr, -, -⟩
    · cases he
    · have hfirst := hdecided hb hr h1
      split at h2
      · rename_i hfall
        obtain ⟨-, rfl⟩ := hfall
        obtain ⟨request', hr'⟩ := forward_fallback hr prompt
        exact ((hdecided hb hr' h2).append hfirst.1).judged
      · obtain ⟨rfl, rfl⟩ := h2
        rw [List.append_nil]
        exact hfirst.judged
  · rcases exec_forwardTo h1 with ⟨rfl, -, -⟩ | ⟨b, request, -, hb, hr, -, -⟩
    · exact ⟨rfl, fun hf => absurd hf not_engineFailed_nil⟩
    · exact (hdecided hb hr h1).judged

section Field

variable [Field K]

theorem mute_elapsedMs {t0 : K} : Mute (elapsedMs t0) :=
  Prog.Only.bind (Prog.Only.call fun _ => rfl) fun _ => Prog.Only.ret _

end Field

theorem Silent.mute {α : Type} {p : Co K α} (h : Silent p) : Mute p := Prog.Only.mono h fun _ => False.elim

theorem mute_yieldAll {frames : List Frame} : Mute (yieldAll frames : Co K Unit) :=
  Prog.Only.forEach (fun _ => Prog.Only.ask fun _ => rfl) frames

theorem mute_noteServerError {w : String} {status : Nat} : Mute (noteServerError w status : Co K Unit) := by
  unfold noteServerError
  split
  · exact Prog.Only.bind (Prog.Only.call fun _ => rfl) fun _ => Prog.Only.ret _
  · exact Prog.Only.ret _

section Arith

variable [Field K] [LinearOrder K] [FloorRing K]

theorem mute_readReply {G : DioGateway K} {b : Backend} {body : Obj} {path : Path} {prompt : String}
    {resp : UpstreamResponse} : Mute (readReply G b body path prompt resp) := by
  unfold readReply parseReply normalized normalizeTgi
  refine Prog.Only.bind (Prog.Only.attempt (Prog.Only.bind (Prog.Only.ofExcept _) fun data => Prog.Only.bind ?_ fun _ =>
    Prog.Only.bind (Prog.Only.ofExcept _) fun _ => Prog.Only.ret _)) fun r => ?_
  · split
    · exact Prog.Only.bind (Prog.Only.ofExcept _) fun _ => Prog.Only.bind (Prog.Only.ofExcept _) fun _ =>
        Prog.Only.bind (Prog.Only.call fun _ => rfl) fun _ => Prog.Only.bind (Prog.Only.call fun _ => rfl) fun _ =>
          Prog.Only.ret _
    · exact Prog.Only.ret _
  · cases r <;> exact Prog.Only.ret _

theorem mute_settle {G : DioGateway K} {w : String} {d : RoutingDecision K} {t0 : K} {tokens : Int} {body : Obj}
    {path : Path} {prompt : String} {resp : UpstreamResponse} : Mute (settle G w d t0 tokens body path prompt resp) :=
  Prog.Only.bind mute_elapsedMs fun _ => Prog.Only.bind (Prog.Only.ofExcept _) fun _ =>
    Prog.Only.bind mute_readReply fun _ => Prog.Only.bind mute_noteServerError fun _ =>
      Prog.Only.bind (Prog.Only.call fun _ => rfl) fun _ => silent_jsonResponse.mute

/-- A failed exchange is counted. -/
theorem booking_settle {G : DioGateway K} {w : String} {b : Backend} (hb : G.pool.get? w = some b)
    (d : RoutingDecision K) (t0 : K) (tokens : Int) (body : Obj) (path : Path) (prompt : String)
    {resp : UpstreamResponse} (hs : 400 ≤ resp.status) :
    booking.Accounts (settle G w d t0 tokens body path prompt resp) := by
  have hfail : decide (resp.status < 400) = false := by simpa using hs
  unfold settle
  refine Obligation.Accounts.after (booking_idle inert_elapsedMs) noRaise_elapsedMs fun e2eMs => ?_
  rw [hb, Option.elim_some, py_ok_bind, hfail]
  refine Obligation.Accounts.after (booking_idle inert_readReply) noRaise_readReply fun r =>
    Obligation.Accounts.after (booking_idle inert_noteServerError) noRaise_noteServerError fun _ => ?_
  exact Obligation.Accounts.before (booking_feedback w e2eMs tokens) fun _ => booking_idle inert_jsonResponse

/-- An admitted request of the JSON path that ends in an engine-side failure is counted, or the failure
is lost. -/
theorem json_booked {G : DioGateway K} {body : Obj} {path : Path} {prompt : String} {tokens : Int} {w : String}
    {d : RoutingDecision K} {t : List (Event (sig K))} {x : Except Exn (JsonResponse K)}
    (h : (jsonAdmitted G body path prompt tokens w d).Exec t x) (hf : EngineFailed t) : booking.Accounted t := by
  obtain ⟨t0, t', rfl, h'⟩ := (Prog.exec_call_bind (S := sig K) _ _ _ _).1 h
  have hq : booking.Quiet [(⟨.perfCounter, t0⟩ : Event (sig K))] :=
    Obligation.quiet_cons rfl Bool.false_ne_true Obligation.quiet_nil
  rw [engineFailed_cons rfl] at hf
  apply hq.append_accounted
  rcases (Prog.exec_bind _ _ _ _).1 h' with ⟨resp, t₁, t₂, h1, h2, rfl⟩ | ⟨e, h1, -⟩
  · obtain ⟨hq1, hstatus⟩ := judged_orRelease (fun _ _ => judged_exchange) h1
    rw [mute_settle.engineFailed_append h2, hstatus] at hf
    obtain ⟨b, hb⟩ : ∃ b, G.pool.get? w = some b := by
      rcases (closesOn_json w).orRelease tracks_exchange h1 with ⟨_, -, hok, -⟩ | ⟨⟨_, he⟩, -⟩
      · exact exchange_ok hok
      · cases he
    exact hq1.append_accounted (booking_settle hb d _ tokens body path prompt hf _ _ h2)
  · obtain ⟨hw, hlost⟩ := judged_orRelease (fun _ _ => judged_exchange) h1
    exact .inr ⟨hw, hlost hf⟩

/-! ## The streaming paths -/

end Arith

/-- A program that raises an `Exception` when the last it hears of the engine is a failure. -/
def Breaks {α : Type} (p : Co K α) : Prop := ∀ t x, p.Exec t x → EngineFailed t → ∃ f, x = .error (.exception f)

theorem Mute.breaks {α : Type} {p : Co K α} (hp : Mute p) : Breaks p := fun _ _ h hf =>
  absurd hf (hp.not_engineFailed h)

theorem Breaks.after {α β : Type} {p : Co K α} {f : α → Co K β} (hp : Mute p) (hf : ∀ a, Breaks (f a)) :
    Breaks (p >>= f) := by
  intro t x h hfail
  rcases (Prog.exec_bind _ _ _ _).1 h with ⟨a, t₁, t₂, h1, h2, rfl⟩ | ⟨e, h1, -⟩
  · rw [engineFailed_append] at hfail
    exact hf a _ _ h2 (hfail.resolve_right fun h => hp.not_engineFailed h1 h.2)
  · exact absurd hfail (hp.not_engineFailed h1)

theorem Breaks.before {α β : Type} {p : Co K α} {f : α → Co K β} (hp : Breaks p) (hf : ∀ a, Mute (f a)) :
    Breaks (p >>= f) := by
  intro t x h hfail
  rcases (Prog.exec_bind _ _ _ _).1 h with ⟨a, t₁, t₂, h1, h2, rfl⟩ | ⟨e, h1, rfl⟩
  · rw [(hf a).engineFailed_append h2] at hfail
    obtain ⟨_, he⟩ := hp _ _ h1 hfail
    cases he
  · obtain ⟨f, he⟩ := hp _ _ h1 hfail
    cases he
    exact ⟨f, rfl⟩

/-- A stream breaks with an `Exception`. -/
theorem breaks_iterEnd : Breaks (iterEnd : Co K Unit) := by
  intro t x h hfail
  obtain ⟨r, rfl, rfl⟩ := (exec_iterEnd t x).1 h
  rw [engineFailed_singleton] at hfail
  cases r with
  | raised text => exact ⟨_, rfl⟩
  | returned _ | cancelled => cases hfail

theorem breaks_relayChunks : Breaks (relayChunks : Co K Unit) :=
  Breaks.after (Prog.Only.call fun _ => rfl) fun _ => Breaks.after mute_yieldAll fun _ => breaks_iterEnd

theorem breaks_translateChunks {G : DioGateway K} {p : TranslParams} : ∀ {chunks : List (List UInt8)}
    {st : Text.Lines.Feed Transl}, Breaks (translateChunks G p st chunks)
  | [], _ => Breaks.before breaks_iterEnd fun _ => Prog.Only.ret _
  | _ :: _, _ => by
    unfold translateChunks
    refine Breaks.after mute_yieldAll fun _ => ?_
    split
    · exact Mute.breaks (Prog.Only.ret _)
    · exact breaks_translateChunks

theorem breaks_readOllama {G : DioGateway K} {p : TranslParams} : Breaks (readOllama G p) :=
  Breaks.after (Prog.Only.call fun _ => rfl) fun _ => breaks_translateChunks

theorem mute_finishOllama {p : TranslParams} {st : Text.Lines.Feed Transl} : Mute (finishOllama p st : Co K Unit) :=
  Prog.Only.bind (Prog.Only.call fun _ => rfl) fun _ => Prog.Only.ask fun _ => rfl

theorem mute_onException {w : String} {report : String → List Frame} {outcome : Except Exn Unit} :
    Mute (onException w report outcome : Co K Unit) := by
  unfold onException
  split
  · exact Prog.Only.ret _
  · exact Prog.Only.bind (Prog.Only.call fun _ => rfl) fun _ => mute_yieldAll
  · exact Prog.Only.raise _

/-- The `try` of a generator: what it read is finished, or it could not be read. -/
theorem exec_tryStream {α : Type} {read : Co K α} {finish : α → Co K Unit} {t : List (Event (sig K))}
    {x : Except Exn (Bool × Except Exn Unit)} (h : (tryStream read finish).Exec t x) :
    (∃ a t₁ t₂ y, read.Exec t₁ (.ok a) ∧ (finish a).Exec t₂ y ∧ t = t₁ ++ t₂ ∧ x = .ok (true, y)) ∨
      ∃ e, read.Exec t (.error e) ∧ x = .ok (false, .error e) := by
  obtain ⟨y, t₁, t₂, h1, h2, rfl⟩ := (Prog.exec_attempt_bind _ _ _ _).1 h
  cases y with
  | ok a =>
    obtain ⟨z, t₃, t₄, h3, ⟨rfl, rfl⟩, rfl⟩ := (Prog.exec_attempt_bind _ _ _ _).1 h2
    rw [List.append_nil]
    exact .inl ⟨a, t₁, t₃, z, h1, h3, rfl, rfl⟩
  | error e =>
    obtain ⟨rfl, rfl⟩ := h2
    rw [List.append_nil]
    exact .inr ⟨e, h1, rfl⟩

theorem mute_serve_streamingResponse {status : Nat} {mediaType : String} {headers : Dict String String} {gen : Co K Unit}
    (h : Mute gen) : Mute (serve (streamingResponse status mediaType headers gen)) := by
  rw [serve_streamingResponse]
  split
  · exact h
  · exact Prog.Only.ofExcept _

/-- Handing a stream over adds nothing to what its generator does. -/
theorem streamingResponse_booked {status : Nat} {mediaType : String} {headers : Dict String String} {gen : Co K Unit}
    (hgen : ∀ t x, gen.Exec t x → EngineFailed t → booking.Accounted t) {t : List (Event (sig K))}
    {x : Except Exn Unit} (h : (serve (streamingResponse status mediaType headers gen)).Exec t x)
    (hfail : EngineFailed t) : booking.Accounted t := by
  rw [serve_streamingResponse] at h
  split at h
  · exact hgen _ _ h hfail
  · obtain ⟨rfl, -⟩ := (exec_py _ _ _).1 h
    exact absurd hfail not_engineFailed_nil

section Field

variable [Field K]

theorem mute_closeOut {w : String} {t0 : K} {tokens : Int} {clientGone streamOk : Bool} :
    Mute (closeOut w t0 tokens clientGone streamOk) := by
  refine Prog.Only.bind mute_elapsedMs fun _ => Prog.Only.bind (Prog.Only.ask fun _ => rfl) fun _ => ?_
  split <;> exact Prog.Only.call fun _ => rfl

/-- Closing a stream that broke counts a failed request, unless the stream cannot be closed. -/
theorem booking_closeOut {w : String} {t0 : K} {tokens : Int} : booking.Accounts (closeOut w t0 tokens false false) :=
  Obligation.Accounts.after (booking_idle inert_elapsedMs) noRaise_elapsedMs fun e2eMs =>
    Obligation.Accounts.ask (fun _ => rfl) not_isReturned fun _ => booking_feedback w e2eMs tokens

/-- An error status counts a failed request, unless the reply cannot be read out and closed. -/
theorem booking_refused {w : String} {t0 : K} {tokens : Int} {status : Nat} :
    booking.Accounts (refused w t0 tokens status) :=
  Obligation.Accounts.ask (fun _ => rfl) not_isReturned fun _ =>
    Obligation.Accounts.ask (fun _ => rfl) not_isReturned fun _ =>
      Obligation.Accounts.after (booking_idle inert_elapsedMs) noRaise_elapsedMs fun e2eMs =>
        Obligation.Accounts.before (booking_feedback w e2eMs tokens) fun _ =>
          booking_idle (Prog.Only.bind inert_noteServerError fun _ => Prog.Only.ret _)

/-- A generator whose stream broke counts a failed request, unless the stream cannot be closed. -/
theorem relayed_booked {α : Type} {w : String} {t0 : K} {tokens : Int} {read : Co K α} {finish : α → Co K Unit}
    {report : String → List Frame} (hr : Inert read) (hb : Breaks read) (hf : ∀ a, Mute (finish a))
    {t : List (Event (sig K))} {x : Except Exn Unit} (h : (relayed w t0 tokens read finish report).Exec t x)
    (hfail : EngineFailed t) : booking.Accounted t := by
  have hrest : ∀ streamOk outcome, Mute (do
      let outcome' ← (onException w report outcome).attempt
      closeOut w t0 tokens (cancelled? outcome) streamOk
      Prog.ofExcept outcome') := fun _ _ =>
    Prog.Only.bind (Prog.Only.attempt mute_onException) fun _ => Prog.Only.bind mute_closeOut fun _ =>
      Prog.Only.ofExcept _
  obtain ⟨r, t₁, t₂, h1, h2, rfl⟩ := noRaise_tryStream.exec_bind h
  rw [(hrest r.1 r.2).engineFailed_append h2] at hfail
  rcases exec_tryStream h1 with ⟨a, t₃, t₄, y, h3, h4, rfl, -⟩ | ⟨e, h3, hr'⟩
  · rw [(hf a).engineFailed_append h4] at hfail
    obtain ⟨_, he⟩ := hb _ _ h3 hfail
    cases he
  · obtain ⟨f, he⟩ := hb _ _ h3 hfail
    cases he
    cases hr'
    have hclose : booking.Accounts (do
        let outcome' ← (onException w report (.error (.exception f))).attempt
        closeOut w t0 tokens false false
        Prog.ofExcept outcome') := by
      refine Obligation.Accounts.after (booking_idle (Prog.Only.attempt inert_onException)) (Prog.NoRaise.attempt _)
        fun _ => ?_
      exact Obligation.Accounts.before booking_closeOut fun _ => booking_idle (Prog.Only.ofExcept _)
    exact ((booking_idle hr).quiet h3).append_accounted (hclose _ _ h2)

/-- An admitted stream that ends in an engine-side failure is counted, or the failure is lost. -/
theorem openedStream_booked {G : DioGateway K} {w : String} {tokens : Int} {request : Backend → HttpRequest}
    {opening : Backend → Co K Nat} {refuse : List UInt8 → Nat → Co K (Reply K)} {accept : K → Co K (Reply K)}
    (hopening : ∀ b, Decisive id (opening b)) (hrefuse : ∀ raw status, Inert (serve (refuse raw status)))
    (haccept : ∀ t0 t x, (serve (accept t0)).Exec t x → EngineFailed t → booking.Accounted t)
    {t : List (Event (sig K))} {x : Except Exn Unit}
    (h : (serve (openedStream G w tokens request opening refuse accept)).Exec t x) (hfail : EngineFailed t) :
    booking.Accounted t := by
  cases hb : G.pool.get? w with
  | none =>
    unfold openedStream at h
    rw [hb] at h
    obtain ⟨rfl, -⟩ : t = [] ∧ x = .error (.exception (.python .keyError)) := h
    exact absurd hfail not_engineFailed_nil
  | some b =>
    have hjudged : ∀ t x, (opening b).Exec t x → Judged id t x := fun t x h => (hopening b t x h).judged
    have hhead : ∀ t0 : K, booking.Quiet [⟨.perfCounter, t0⟩, ⟨.buildRequest .first (request b), .ok ()⟩] :=
      fun t0 => Obligation.quiet_cons rfl Bool.false_ne_true
        (Obligation.quiet_cons rfl Bool.false_ne_true Obligation.quiet_nil)
    obtain ⟨t0, ⟨text, rfl⟩ | ⟨t', rfl, hopened⟩⟩ := exec_openedStream hb h
    · rw [engineFailed_cons rfl, engineFailed_cons rfl] at hfail
      exact absurd hfail not_engineFailed_nil
    · rw [engineFailed_cons rfl, engineFailed_cons rfl] at hfail
      apply (hhead t0).append_accounted
      rcases hopened with ⟨e, he⟩ | ⟨status, t₁, t₂, rfl, h1, ⟨hs, h2⟩ | ⟨hs, h2⟩⟩
      · obtain ⟨hw, hlost⟩ := judged_orRelease hjudged he
        exact .inr ⟨hw, hlost hfail⟩
      · obtain ⟨hq, -⟩ := judged_orRelease hjudged h1
        exact hq.append_accounted
          (Obligation.Accounts.before booking_refused (fun raw => booking_idle (hrefuse raw status)) _ _ h2)
      · obtain ⟨hq, hstatus⟩ := judged_orRelease hjudged h1
        have hnot : ¬ EngineFailed t₁ := by rw [hstatus]; exact Nat.not_le.2 hs
        rw [engineFailed_append] at hfail
        exact hq.append_accounted (haccept t0 _ _ h2 (hfail.resolve_right fun h => hnot h.2))

end Field

/-! ## Requests -/

variable [Field K] [LinearOrder K] [FloorRing K]

/-- A streamed request that ends in an engine-side failure is counted, or the failure is lost. -/
theorem stream_booked {G : DioGateway K} {s : StreamHandler} {body : Obj} {path : Path} {tier : String}
    {allowed : Option (List String)} {t : List (Event (sig K))} {x : Except Exn Unit}
    (h : (serve (s.proxy G body path tier allowed)).Exec t x) (hfail : EngineFailed t) : booking.Accounted t := by
  have hpick : ∀ a r, booking.Quiet [(⟨.pick a, r⟩ : Event (sig K))] := fun _ _ =>
    Obligation.quiet_cons rfl Bool.false_ne_true Obligation.quiet_nil
  cases s with
  | relay mediaType =>
    rw [StreamHandler.proxy, relayStream, serve_admission] at h
    rcases exec_admission h with ⟨rfl, -⟩ | ⟨prompt, tokens, -, -, ⟨e, t', rfl, h'⟩ | ⟨w, d, t', rfl, h'⟩⟩
    · exact absurd hfail not_engineFailed_nil
    · rw [engineFailed_cons rfl] at hfail
      exact absurd hfail ((mute_serve_streamingResponse mute_yieldAll).not_engineFailed h')
    · rw [engineFailed_cons rfl] at hfail
      apply (hpick _ _).append_accounted
      refine openedStream_booked (fun _ => decisive_send _) (fun _ _ => inert_relayRefusal) (fun t0 _ _ h hf => ?_) h' hfail
      exact streamingResponse_booked (fun _ _ h hf => relayed_booked inert_relayChunks breaks_relayChunks
        (fun _ => Prog.Only.ret _) h hf) h hf
  | ollama isChat =>
    rw [StreamHandler.proxy, proxyOllamaStream, serve_admission] at h
    rcases exec_admission h with ⟨rfl, -⟩ | ⟨prompt, tokens, -, -, ⟨e, t', rfl, h'⟩ | ⟨w, d, t', rfl, h'⟩⟩
    · exact absurd hfail not_engineFailed_nil
    · rw [engineFailed_cons rfl] at hfail
      exact absurd hfail ((mute_serve_streamingResponse (Prog.Only.ask fun _ => rfl)).not_engineFailed h')
    · rw [engineFailed_cons rfl] at hfail
      apply (hpick _ _).append_accounted
      refine openedStream_booked (fun _ => decisive_openOllama) (fun _ _ => inert_ollamaRefusal) (fun t0 _ _ h hf => ?_)
        h' hfail
      exact streamingResponse_booked (fun _ _ h hf => relayed_booked inert_readOllama breaks_readOllama
        (fun _ => mute_finishOllama) h hf) h hf

/-- A request of the JSON proxy that ends in an engine-side failure is counted, or the failure is lost. -/
theorem proxyJson_booked {G : DioGateway K} {body : Obj} {path : Path} {tier : String} {allowed : Option (List String)}
    {t : List (Event (sig K))} {x : Except Exn (JsonResponse K)} (h : (proxyJson G body path tier allowed).Exec t x)
    (hfail : EngineFailed t) : booking.Accounted t := by
  rcases exec_admission h with ⟨rfl, -⟩ | ⟨prompt, tokens, -, -, ⟨e, t', rfl, h'⟩ | ⟨w, d, t', rfl, h'⟩⟩
  · exact absurd hfail not_engineFailed_nil
  · rw [engineFailed_cons rfl] at hfail
    exact absurd hfail (silent_jsonResponse.mute.not_engineFailed h')
  · rw [engineFailed_cons rfl] at hfail
    have hpick : booking.Quiet [(⟨.pick ⟨prompt, tier, some tokens, allowed⟩, .ok (w, d)⟩ : Event (sig K))] :=
      Obligation.quiet_cons rfl Bool.false_ne_true Obligation.quiet_nil
    exact hpick.append_accounted (json_booked h' hfail)

/-- A request to any endpoint that ends in an engine-side failure is counted, or the failure is lost. -/
theorem endpoint_booked {G : DioGateway K} {e : Endpoint} {body : Obj} {t : List (Event (sig K))} {x : Except Exn Unit}
    (h : (serve (e.handle G body)).Exec t x) (hfail : EngineFailed t) : booking.Accounted t := by
  rcases exec_endpoint h with rfl | ⟨body', allowed, -, ⟨x', h⟩ | h⟩
  · exact absurd hfail not_engineFailed_nil
  · exact proxyJson_booked h hfail
  · exact stream_booked h hfail

end Dio.Gateway
