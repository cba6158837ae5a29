/-
The slot of a request on the JSON path: every way the upstream calls can end gives it back exactly
once, except the cancellation of the awaiting task, which `except Exception` does not catch.
-/
import DioServe.Gateway.Slots

namespace Dio.Gateway

open Data Py Effect Scheduler

variable {K : Type}

/-- An upstream call of the JSON path was cancelled. -/
def postCancelled : Event (sig K) → Bool
  | ⟨.post _ _, r⟩ => Outcome.isCancelled r
  | _ => false

theorem closesOn_json (w : String) : ClosesOn (slot w postCancelled : Obligation (sig K)) w :=
  closesOn_slot (fun ev h => by obtain ⟨c, r⟩ := ev; cases c <;> first | rfl | cases h) (fun _ _ _ => rfl) rfl

theorem toExcept_interrupts {α : Type} (r : Outcome α) :
    (∃ e, r.toExcept = .error e ∧ Interrupts e) ↔ r.isCancelled = true := by
  cases r with
  | returned a => simp [Outcome.toExcept, Outcome.isCancelled]
  | raised text =>
    simp only [Outcome.toExcept, Outcome.isCancelled, Except.error.injEq, exists_eq_left', Bool.false_eq_true, iff_false]
    exact fun h => h _ rfl
  | cancelled =>
    simp only [Outcome.toExcept, Outcome.isCancelled, Except.error.injEq, exists_eq_left', iff_true]
    exact fun f h => by cases h

/-! ## The exchange -/

theorem tracks_forwardTo {G : DioGateway K} {n : Attempt} {w w' : String} {path : Path} {body : Obj} :
    (slot w' postCancelled).Tracks Interrupts (forwardTo G n w path body) :=
  Obligation.Tracks.bind ((closesOn_json w').tracks_py _) fun _ =>
    Obligation.Tracks.bind ((closesOn_json w').tracks_py _) fun _ =>
      Obligation.Tracks.ask (fun _ => rfl) toExcept_interrupts

theorem tracks_exchange {G : DioGateway K} {w w' : String} {body : Obj} {path : Path} {prompt : String} :
    (slot w' postCancelled).Tracks Interrupts (exchange G w body path prompt) := by
  refine Obligation.Tracks.bind tracks_forwardTo fun resp => ?_
  split
  · exact tracks_forwardTo
  · exact Obligation.Tracks.ret _

/-- Forwarding fails before the call, or is one call. -/
theorem exec_forwardTo {G : DioGateway K} {n : Attempt} {w : String} {path : Path} {body : Obj}
    {t : List (Event (sig K))} {x : Except Exn UpstreamResponse} (h : (forwardTo G n w path body).Exec t x) :
    (t = [] ∧ (∃ e, x = .error (.exception e)) ∧
      ∀ b, G.pool.get? w = some b → ∀ request, b.forward G.U path body G.requestTimeoutS ≠ .ok request) ∨
    ∃ b request r, G.pool.get? w = some b ∧ b.forward G.U path body G.requestTimeoutS = .ok request ∧
      t = [⟨.post n request, r⟩] ∧ x = Outcome.toExcept r := by
  unfold forwardTo at h
  cases hb : G.pool.get? w with
  | none =>
    rw [hb] at h
    obtain ⟨rfl, rfl⟩ := h
    exact .inl ⟨rfl, ⟨_, rfl⟩, fun _ hb => by cases hb⟩
  | some b =>
    rw [hb, Option.elim_some, py_ok_bind] at h
    cases hr : b.forward G.U path body G.requestTimeoutS with
    | error e =>
      rw [hr] at h
      obtain ⟨rfl, rfl⟩ := h
      refine .inl ⟨rfl, ⟨_, rfl⟩, fun b' hb' request => ?_⟩
      cases hb'
      rw [hr]; exact nofun
    | ok request =>
      rw [hr, py_ok_bind] at h
      obtain ⟨r, rfl, rfl⟩ := (exec_post _ _ _ _).1 h
      exact .inr ⟨b, request, r, rfl, hr, rfl, rfl⟩

/-- An exchange that succeeds has found its backend. -/
theorem exchange_ok {G : DioGateway K} {w : String} {body : Obj} {path : Path} {prompt : String}
    {t : List (Event (sig K))} {resp : UpstreamResponse} (h : (exchange G w body path prompt).Exec t (.ok resp)) :
    ∃ b, G.pool.get? w = some b := by
  rcases (Prog.exec_bind _ _ _ _).1 h with ⟨_, t₁, _, h1, -, -⟩ | ⟨_, -, he⟩
  · rcases exec_forwardTo h1 with ⟨-, ⟨_, he⟩, -⟩ | ⟨b, _, _, hb, -⟩
    · cases he
    · exact ⟨b, hb⟩
  · cases he

/-- The calls of an exchange: the request forwarded, and the fallback of a chat. -/
theorem only_exchange {P : Event (sig K) → Prop} {G : DioGateway K} {w : String} {body : Obj} {path : Path}
    {prompt : String}
    (hfirst : ∀ b request r, G.pool.get? w = some b → b.forward G.U path body G.requestTimeoutS = .ok request →
      P ⟨.post .first request, r⟩)
    (hagain : ∀ b request r, path = .chat → G.pool.get? w = some b →
      b.forward G.U .completions (fallbackBody body prompt) G.requestTimeoutS = .ok request → P ⟨.post .again request, r⟩) :
    Prog.Only P (exchange G w body path prompt) := by
  have hforward : ∀ {n : Attempt} {path' : Path} {body' : Obj},
      (∀ b request r, G.pool.get? w = some b → b.forward G.U path' body' G.requestTimeoutS = .ok request →
        P ⟨.post n request, r⟩) → Prog.Only P (forwardTo G n w path' body') := by
    intro n path' body' hpost t x h ev hev
    rcases exec_forwardTo h with ⟨rfl, -, -⟩ | ⟨b, request, r, hb, hr, rfl, -⟩
    · cases hev
    · rw [List.mem_singleton.1 hev]; exact hpost b request r hb hr
  refine Prog.Only.bind (hforward hfirst) fun resp => ?_
  split
  · rename_i hfall
    exact hforward fun b request r => hagain b request r hfall.2
  · exact Prog.Only.ret _

variable [Field K] [LinearOrder K] [FloorRing K]

/-! ## The handler -/

theorem plain_settle {G : DioGateway K} {w : String} {d : RoutingDecision K} {t0 : K} {tokens : Int} {body : Obj}
    {path : Path} {prompt : String} {resp : UpstreamResponse} : Plain (settle G w d t0 tokens body path prompt resp) :=
  Prog.Only.bind inert_elapsedMs.plain fun _ => Prog.Only.bind inert_py.plain fun _ =>
    Prog.Only.bind inert_readReply.plain fun _ => Prog.Only.bind inert_noteServerError.plain fun _ =>
      Prog.Only.bind (Prog.Only.call fun _ => rfl) fun _ => inert_jsonResponse.plain

/-- The calls of an admitted request: plain ones and those of its exchange. -/
theorem only_jsonAdmitted {P : Event (sig K) → Prop} (hplain : ∀ ev : Event (sig K), Call.plain ev.op = true → P ev)
    {G : DioGateway K} {body : Obj} {path : Path} {prompt : String} {tokens : Int} {w : String} {d : RoutingDecision K}
    (h : Prog.Only P (exchange G w body path prompt)) : Prog.Only P (jsonAdmitted G body path prompt tokens w d) :=
  Prog.Only.bind (Prog.Only.call fun _ => hplain _ rfl) fun _ =>
    Prog.Only.bind (only_orRelease h (hplain _ rfl)) fun _ => Prog.Only.mono plain_settle hplain

theorem pickless_jsonAdmitted {G : DioGateway K} {body : Obj} {path : Path} {prompt : String} {tokens : Int}
    {w : String} {d : RoutingDecision K} : Pickless (jsonAdmitted G body path prompt tokens w d) :=
  only_jsonAdmitted (fun _ => Call.pickless_of_plain) (only_exchange (fun _ _ _ _ _ => rfl) fun _ _ _ _ _ _ => rfl)

/-- Once the exchange is over, its outcome is recorded. -/
theorem accounts_settle {G : DioGateway K} {w : String} {b : Backend} (hb : G.pool.get? w = some b)
    (d : RoutingDecision K) (t0 : K) (tokens : Int) (body : Obj) (path : Path) (prompt : String)
    (resp : UpstreamResponse) :
    (slot w postCancelled).Accounts (settle G w d t0 tokens body path prompt resp) := by
  have hO : ClosesOn (slot w postCancelled : Obligation (sig K)) w := closesOn_json w
  unfold settle
  refine Obligation.Accounts.after (hO.idle inert_elapsedMs) noRaise_elapsedMs fun e2eMs => ?_
  rw [hb, Option.elim_some, py_ok_bind]
  refine Obligation.Accounts.after (hO.idle inert_readReply) noRaise_readReply
    fun r => Obligation.Accounts.after (hO.idle inert_noteServerError) noRaise_noteServerError
      fun _ => ?_
  exact Obligation.Accounts.before (Obligation.Accounts.settle fun _ => hO.feedback _ _ _)
    fun _ => hO.idle inert_jsonResponse

theorem accounts_jsonAdmitted (G : DioGateway K) (body : Obj) (path : Path) (prompt : String) (tokens : Int)
    (w : String) (d : RoutingDecision K) :
    (slot w postCancelled).Accounts (jsonAdmitted G body path prompt tokens w d) := by
  have hO : ClosesOn (slot w postCancelled : Obligation (sig K)) w := closesOn_json w
  refine Obligation.Accounts.after (hO.idle (Prog.Only.call fun _ => rfl)) (Prog.NoRaise.call _) fun t0 => ?_
  intro t x h
  rcases (Prog.exec_bind _ _ _ _).1 h with ⟨resp, t₁, t₂, h1, h2, rfl⟩ | ⟨e, h1, -⟩
  · rcases hO.orRelease tracks_exchange h1 with ⟨_, -, hok, hq⟩ | ⟨⟨_, he⟩, -⟩
    · obtain ⟨b, hb⟩ := exchange_ok hok
      exact hq.append_accounted (accounts_settle hb d t0 tokens body path prompt resp _ _ h2)
    · cases he
  · rcases hO.orRelease tracks_exchange h1 with ⟨_, he, -⟩ | ⟨-, ha⟩
    · cases he
    · exact ha

/-- A request on the JSON path admitted on `w` gives its slot back exactly once, unless one of its
upstream calls is cancelled; then it never does. -/
theorem json_closes_once_iff (G : DioGateway K) (body : Obj) (path : Path) (tier : String)
    (allowed : Option (List String)) {t : List (Event (sig K))} {x : Except Exn (JsonResponse K)}
    (h : (proxyJson G body path tier allowed).Exec t x) {a : PickArgs} {w : String} {d : RoutingDecision K}
    (hpick : ⟨.pick a, .ok (w, d)⟩ ∈ t) : closings w t = 1 ↔ ∀ ev ∈ t, ¬ postCancelled ev := by
  obtain ⟨prompt, tokens, t', -, -, -, rfl, h'⟩ :=
    exec_admission_on (fun _ => inert_jsonResponse.plain.pickless) (fun _ _ _ _ => pickless_jsonAdmitted) h hpick
  have hacc := accounts_jsonAdmitted G body path prompt tokens w d t' x h'
  have hq : (slot w postCancelled).Quiet [⟨.pick a, .ok (w, d)⟩] :=
    Obligation.quiet_cons rfl Bool.false_ne_true Obligation.quiet_nil
  exact (hq.append_accounted hacc).weight_eq_one_iff

/-- A completion answered with 200 gives its slot back. -/
theorem json_closes_once_hello :
    closings "gpu0" (Prog.run (Answers.env {}) (proxyJson oneBackend hello .completions "small" none)).1 = 1 :=
  (json_closes_once_iff oneBackend hello .completions "small" none (Prog.exec_run _ _)
    (List.mem_of_getElem? (i := 0) rfl)).2 (by decide +kernel)

/-- A completion cancelled while it waits for the engine never gives its slot back. -/
theorem json_cancelled_keeps_slot :
    ∃ (t : List (Event (sig ℚ))) (x : Except Exn (JsonResponse ℚ)) (a : PickArgs),
      (proxyJson oneBackend hello .completions "small" none).Exec t x ∧
        ⟨.pick a, .ok ("gpu0", decisionOn)⟩ ∈ t ∧ closings "gpu0" t = 0 :=
  ⟨_, _, _, Prog.exec_run (Answers.env { post := .cancelled }) _, List.mem_of_getElem? (i := 0) rfl, by decide +kernel⟩

end Dio.Gateway
