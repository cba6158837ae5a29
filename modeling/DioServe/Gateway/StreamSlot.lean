/-
The slot of a streamed request. Opening the stream and reading it are guarded; building the request,
reading out an error reply, closing the stream and building the response are not, and a failure
there keeps the slot taken.
-/
import DioServe.Gateway.JsonSlot

namespace Dio.Gateway

open Data Py Effect Scheduler

variable {K : Type}

/-! ## Unguarded calls -/

/-- A call was answered in a way that leaves the handler before the slot is given back. -/
def unguarded : Event (sig K) → Bool
  | ⟨.buildRequest .first _, r⟩ => !Except.isOk r
  | ⟨.send _, r⟩ => Outcome.isCancelled r
  | ⟨.aread .retry, r⟩ => Outcome.isCancelled r
  | ⟨.aclose .retry, r⟩ => Outcome.isCancelled r
  | ⟨.aread _, r⟩ => !Outcome.isReturned r
  | ⟨.aclose _, r⟩ => !Outcome.isReturned r
  | _ => false

/-- The status of a stream that was opened. -/
def Outcome.opened : Outcome Nat → Bool
  | .returned status => status < 400
  | _ => false

/-- The upstream accepted the stream. -/
def opens : Event (sig K) → Bool
  | ⟨.send _, r⟩ => Outcome.opened r
  | _ => false

/-- A stream was opened. -/
def Opened (t : List (Event (sig K))) : Prop := ∃ ev ∈ t, opens ev = true

theorem not_opened_nil : ¬ Opened ([] : List (Event (sig K))) := by simp [Opened]

theorem opened_cons {ev : Event (sig K)} (h : opens ev = false) (t : List (Event (sig K))) :
    Opened (ev :: t) ↔ Opened t := by
  simp [Opened, h]

theorem opened_append (t t' : List (Event (sig K))) : Opened (t ++ t') ↔ Opened t ∨ Opened t' := by
  simp only [Opened, List.mem_append, or_and_right, exists_or]

theorem closesOn_stream (w : String) : ClosesOn (slot w unguarded : Obligation (sig K)) w :=
  closesOn_slot (fun ev h => by obtain ⟨c, r⟩ := ev; cases c <;> first | rfl | cases h) (fun _ _ _ => rfl) rfl

theorem not_isReturned {α : Type} (r : Outcome α) : (!r.isReturned) = true ↔ ∃ e, r.toExcept = .error e := by
  cases r <;> simp [Outcome.isReturned, Outcome.toExcept]

/-! ## Opening -/

theorem tracks_send {n : Attempt} {w : String} : (slot w unguarded).Tracks Interrupts (send n : Co K Nat) :=
  Obligation.Tracks.ask (fun _ => rfl) toExcept_interrupts

theorem tracks_openOllama {G : DioGateway K} {b : Backend} {path : Path} {payload : Obj} {w : String} :
    (slot w unguarded).Tracks Interrupts (openOllama G b path payload) := by
  refine Obligation.Tracks.bind tracks_send fun status => ?_
  split
  · refine Obligation.Tracks.bind (Obligation.Tracks.ask (fun _ => rfl) toExcept_interrupts) fun _ =>
      Obligation.Tracks.bind (Obligation.Tracks.ask (fun _ => rfl) toExcept_interrupts) fun _ =>
        Obligation.Tracks.bind (Obligation.Tracks.ask (fun _ => rfl) fun r => ?_) fun _ => tracks_send
    -- a request that cannot be built raises an `Exception`
    cases r with
    | ok a => simp [Except.mapError, slot, unguarded]
    | error text =>
      simp only [Except.mapError, Except.error.injEq, exists_eq_left', slot, unguarded, Bool.false_eq_true, iff_false]
      exact fun h => h _ rfl
  · exact Obligation.Tracks.ret _

/-- A program that opens a stream exactly when it returns a status below 400. -/
def Opening (p : Co K Nat) : Prop :=
  ∀ t x, p.Exec t x → (Opened t ↔ ∃ status, x = .ok status ∧ status < 400)

theorem opening_send (n : Attempt) : Opening (send n : Co K Nat) := by
  intro t x h
  obtain ⟨r, rfl, rfl⟩ := (exec_send t n x).1 h
  cases r <;> simp [Opened, opens, Outcome.opened, Outcome.toExcept]

/-- A program that opens no stream. -/
def Unopening {α : Type} (p : Co K α) : Prop := Prog.Only (fun ev => opens ev = false) p

theorem Inert.unopening {α : Type} {p : Co K α} (h : Inert p) : Unopening p :=
  Prog.Only.mono h fun ev hev => by
    obtain ⟨c, r⟩ := ev
    cases c <;> first | rfl | cases hev

theorem Unopening.not_opened {α : Type} {p : Co K α} (hp : Unopening p) {t : List (Event (sig K))} {x : Except Exn α}
    (h : p.Exec t x) : ¬ Opened t := by
  rintro ⟨ev, hev, ho⟩
  have hno : opens ev = false := hp _ _ h ev hev
  rw [ho] at hno; cases hno

theorem Opening.after {α : Type} {p : Co K α} {f : α → Co K Nat} (hp : Unopening p) (hf : ∀ a, Opening (f a)) :
    Opening (p >>= f) := by
  intro t x h
  rcases (Prog.exec_bind _ _ _ _).1 h with ⟨a, t₁, t₂, h1, h2, rfl⟩ | ⟨e, h1, rfl⟩
  · rw [← hf a _ _ h2, opened_append]
    simp only [hp.not_opened h1, false_or]
  · simp [hp.not_opened h1]

theorem opening_openOllama {G : DioGateway K} {b : Backend} {path : Path} {payload : Obj} :
    Opening (openOllama G b path payload) := by
  intro t x h
  rcases (Prog.exec_bind _ _ _ _).1 h with ⟨status, t₁, t₂, h1, h2, rfl⟩ | ⟨e, h1, rfl⟩
  · split at h2
    · rename_i hretry
      have hfirst : ¬ Opened t₁ := by
        rw [opening_send _ _ _ h1]
        rintro ⟨s, hs, hlt⟩
        cases hs; omega
      have hagain : Opening (K := K) (do
          let _ ← aread .retry
          aclose .retry
          buildRequest .again (streamRequest G b path (Dict.erase payload "stream_options"))
          send .again) :=
        Opening.after (Prog.Only.ask fun _ => rfl) fun _ => Opening.after (Prog.Only.ask fun _ => rfl) fun _ =>
          Opening.after (Prog.Only.ask fun _ => rfl) fun _ => opening_send .again
      rw [← hagain _ _ h2, opened_append]
      simp only [hfirst, false_or]
    · obtain ⟨rfl, rfl⟩ := h2
      rw [List.append_nil]
      exact opening_send _ _ _ h1
  · exact opening_send _ _ _ h1 |>.trans (by simp)

theorem opening_orRelease {w : String} {p : Co K Nat} (hp : Opening p) : Opening (orRelease w p) := by
  intro t x h
  obtain ⟨y, t₁, t₂, h1, h2, rfl⟩ := (Prog.exec_attempt_bind _ _ _ _).1 h
  cases y with
  | ok status =>
    obtain ⟨rfl, rfl⟩ := h2
    rw [List.append_nil]
    exact hp _ _ h1
  | error e =>
    have hno : ¬ Opened t₁ := by
      rw [hp _ _ h1]; rintro ⟨_, he, -⟩; cases he
    by_cases hi : Interrupts e
    · obtain ⟨rfl, rfl⟩ := uncaught hi h2
      rw [List.append_nil]
      simp [hno]
    · obtain ⟨f, rfl⟩ : ∃ f, e = .exception f := by simpa [Interrupts] using hi
      simp only [Prog.exec_bind, exec_release, Prog.exec_raise] at h2
      rcases h2 with ⟨a, t₂, t₃, ⟨rfl, -⟩, ⟨rfl, rfl⟩, rfl⟩ | ⟨e, ⟨-, he⟩, -⟩
      · rw [List.append_nil, opened_append, opened_cons rfl]
        simp [hno, not_opened_nil]
      · cases he

/-- The calls of the opening of an Ollama stream: plain ones, sends, and the request built once more. -/
theorem only_openOllama {P : Event (sig K) → Prop} (hplain : ∀ ev : Event (sig K), Call.plain ev.op = true → P ev)
    {G : DioGateway K} {b : Backend} {path : Path} {payload : Obj}
    (hretry : ∀ r, P ⟨.buildRequest .again (streamRequest G b path (Dict.erase payload "stream_options")), r⟩)
    (hsend : ∀ n r, P ⟨.send n, r⟩) : Prog.Only P (openOllama G b path payload) := by
  refine Prog.Only.bind (Prog.Only.ask (hsend .first)) fun status => ?_
  split
  · exact Prog.Only.bind (Prog.Only.ask fun _ => hplain _ rfl) fun _ =>
      Prog.Only.bind (Prog.Only.ask fun _ => hplain _ rfl) fun _ =>
        Prog.Only.bind (Prog.Only.ask hretry) fun _ => Prog.Only.ask (hsend .again)
  · exact Prog.Only.ret _

/-! ## Reading and closing -/

theorem noRaise_tryStream {α : Type} {read : Co K α} {finish : α → Co K Unit} : (tryStream read finish).NoRaise := by
  refine Prog.NoRaise.bind (Prog.NoRaise.attempt _) fun r => ?_
  cases r with
  | ok a => exact Prog.NoRaise.bind (Prog.NoRaise.attempt _) fun _ => Prog.NoRaise.ret _
  | error e => exact Prog.NoRaise.ret _

section Field

variable [Field K]

theorem accounts_closeOut {w : String} {t0 : K} {tokens : Int} {clientGone streamOk : Bool} :
    (slot w unguarded).Accounts (closeOut w t0 tokens clientGone streamOk) := by
  have hO : ClosesOn (slot w unguarded : Obligation (sig K)) w := closesOn_stream w
  refine Obligation.Accounts.after (hO.idle inert_elapsedMs) noRaise_elapsedMs fun e2eMs => ?_
  refine Obligation.Accounts.ask (fun _ => rfl) not_isReturned fun _ => ?_
  cases clientGone
  · exact Obligation.Accounts.settle fun _ => hO.feedback _ _ _
  · exact Obligation.Accounts.settle fun _ => hO.release

/-- A generator that relays a stream gives the slot back exactly once, unless closing the upstream
stream fails. -/
theorem accounts_relayed {α : Type} {w : String} {t0 : K} {tokens : Int} {read : Co K α} {finish : α → Co K Unit}
    {report : String → List Frame} (hr : Inert read) (hf : ∀ a, Inert (finish a)) :
    (slot w unguarded).Accounts (relayed w t0 tokens read finish report) := by
  have hO : ClosesOn (slot w unguarded : Obligation (sig K)) w := closesOn_stream w
  refine Obligation.Accounts.after (hO.idle (inert_tryStream hr hf)) noRaise_tryStream fun r => ?_
  refine Obligation.Accounts.after (hO.idle (Prog.Only.attempt inert_onException)) (Prog.NoRaise.attempt _)
    fun outcome => ?_
  exact Obligation.Accounts.before accounts_closeOut fun _ => hO.idle (Prog.Only.ofExcept _)

/-- An error reply gives the slot back exactly once, unless reading it out fails. -/
theorem accounts_refused {w : String} {t0 : K} {tokens : Int} {status : Nat} :
    (slot w unguarded).Accounts (refused w t0 tokens status) := by
  have hO : ClosesOn (slot w unguarded : Obligation (sig K)) w := closesOn_stream w
  refine Obligation.Accounts.ask (fun _ => rfl) not_isReturned fun raw => ?_
  refine Obligation.Accounts.ask (fun _ => rfl) not_isReturned fun _ => ?_
  refine Obligation.Accounts.after (hO.idle inert_elapsedMs) noRaise_elapsedMs fun e2eMs => ?_
  refine Obligation.Accounts.before (Obligation.Accounts.settle fun _ => hO.feedback _ _ _) fun _ => ?_
  exact hO.idle (Prog.Only.bind inert_noteServerError fun _ => Prog.Only.ret _)

/-! ## The handler -/

theorem unopening_refused {w : String} {t0 : K} {tokens : Int} {status : Nat} :
    Unopening (refused w t0 tokens status) :=
  Prog.Only.bind (Prog.Only.ask fun _ => rfl) fun _ => Prog.Only.bind (Prog.Only.ask fun _ => rfl) fun _ =>
    Prog.Only.bind inert_elapsedMs.unopening fun _ => Prog.Only.bind (Prog.Only.call fun _ => rfl) fun _ =>
      Prog.Only.bind inert_noteServerError.unopening fun _ => Prog.Only.ret _

/-- How an admitted stream can go on once its backend is known: the request cannot be built, opening
the stream fails, the upstream answers an error status, or it accepts the stream. -/
theorem exec_openedStream {G : DioGateway K} {w : String} {tokens : Int} {request : Backend → HttpRequest}
    {opening : Backend → Co K Nat} {refuse : List UInt8 → Nat → Co K (Reply K)} {accept : K → Co K (Reply K)}
    {b : Backend} (hb : G.pool.get? w = some b) {t : List (Event (sig K))} {x : Except Exn Unit}
    (h : (serve (openedStream G w tokens request opening refuse accept)).Exec t x) :
    ∃ t0 : K, (∃ text, t = [⟨.perfCounter, t0⟩, ⟨.buildRequest .first (request b), .error text⟩]) ∨
      ∃ t', t = ⟨.perfCounter, t0⟩ :: ⟨.buildRequest .first (request b), .ok ()⟩ :: t' ∧
        ((∃ e, (orRelease w (opening b)).Exec t' (.error e)) ∨
          ∃ status t₁ t₂, t' = t₁ ++ t₂ ∧ (orRelease w (opening b)).Exec t₁ (.ok status) ∧
            ((400 ≤ status ∧ (refused w t0 tokens status >>= fun raw => serve (refuse raw status)).Exec t₂ x) ∨
              (status < 400 ∧ (serve (accept t0)).Exec t₂ x))) := by
  unfold openedStream at h
  rw [hb, Option.elim_some, py_ok_bind, serve_bind] at h
  obtain ⟨t0, t', rfl, h'⟩ := (Prog.exec_call_bind (S := sig K) _ _ _ _).1 h
  refine ⟨t0, ?_⟩
  rw [serve_bind] at h'
  rcases (Prog.exec_bind _ _ _ _).1 h' with ⟨_, t₁, t₂, h1, h2, rfl⟩ | ⟨e, h1, -⟩
  · obtain ⟨(_ | _), rfl, hr⟩ := (exec_buildRequest _ _ _ _).1 h1
    · cases hr
    · right
      refine ⟨t₂, rfl, ?_⟩
      rw [serve_bind] at h2
      rcases (Prog.exec_bind _ _ _ _).1 h2 with ⟨status, t₃, t₄, h3, h4, rfl⟩ | ⟨e, h3, -⟩
      · right
        refine ⟨status, t₃, t₄, rfl, h3, ?_⟩
        split at h4
        · rename_i hs; rw [serve_bind] at h4; exact .inl ⟨hs, h4⟩
        · rename_i hs; exact .inr ⟨by omega, h4⟩
      · exact .inl ⟨e, h3⟩
  · obtain ⟨(text | _), rfl, hr⟩ := (exec_buildRequest _ _ _ _).1 h1
    · exact .inl ⟨text, rfl⟩
    · cases hr

theorem plain_relayed {α : Type} {w : String} {t0 : K} {tokens : Int} {read : Co K α} {finish : α → Co K Unit}
    {report : String → List Frame} (hr : Inert read) (hf : ∀ a, Inert (finish a)) :
    Plain (relayed w t0 tokens read finish report) := by
  refine Prog.Only.bind (inert_tryStream hr hf).plain fun r =>
    Prog.Only.bind (Prog.Only.attempt inert_onException.plain) fun outcome => Prog.Only.bind ?_ fun _ =>
      Prog.Only.ofExcept _
  refine Prog.Only.bind inert_elapsedMs.plain fun _ => Prog.Only.bind (Prog.Only.ask fun _ => rfl) fun _ => ?_
  split <;> exact Prog.Only.call fun _ => rfl

theorem plain_refused {w : String} {t0 : K} {tokens : Int} {status : Nat} : Plain (refused w t0 tokens status) :=
  Prog.Only.bind (Prog.Only.ask fun _ => rfl) fun _ => Prog.Only.bind (Prog.Only.ask fun _ => rfl) fun _ =>
    Prog.Only.bind inert_elapsedMs.plain fun _ => Prog.Only.bind (Prog.Only.call fun _ => rfl) fun _ =>
      Prog.Only.bind inert_noteServerError.plain fun _ => Prog.Only.ret _

section Handler

variable {G : DioGateway K} {w : String} {tokens : Int} {request : Backend → HttpRequest}
  {opening : Backend → Co K Nat} {refuse : List UInt8 → Nat → Co K (Reply K)} {mediaType : String}
  {headers : Dict String String} {gen : K → Co K Unit} {t : List (Event (sig K))} {x : Except Exn Unit}

/-- The reply to a stream that was refused. -/
theorem accounts_refusal {t0 : K} {status : Nat} (hrefuse : ∀ raw status, Inert (serve (refuse raw status))) :
    (slot w unguarded).Accounts (refused w t0 tokens status >>= fun raw => serve (refuse raw status)) :=
  Obligation.Accounts.before accounts_refused fun raw => (closesOn_stream w).idle (hrefuse raw status)

theorem unopening_refusal {t0 : K} {status : Nat} (hrefuse : ∀ raw status, Inert (serve (refuse raw status))) :
    Unopening (refused w t0 tokens status >>= fun raw => serve (refuse raw status)) :=
  Prog.Only.bind unopening_refused fun raw => (hrefuse raw status).unopening

/-- An admitted stream whose backend is known: its slot is accounted for, or it was opened and could
not be announced, and the slot stays taken. -/
theorem openedStream_accounted {b : Backend} (hb : G.pool.get? w = some b)
    (htracks : (slot w unguarded).Tracks Interrupts (opening b)) (hopening : Opening (opening b))
    (hrefuse : ∀ raw status, Inert (serve (refuse raw status))) (hgen : ∀ t0, (slot w unguarded).Accounts (gen t0))
    (h : (serve (openedStream G w tokens request opening refuse
      fun t0 => streamingResponse 200 mediaType headers (gen t0))).Exec t x) :
    (slot w unguarded).Accounted t ∧ (headersOk headers = true ∨ ¬ Opened t) ∨
      closings w t = 0 ∧ headersOk headers = false ∧ Opened t := by
  have hO : ClosesOn (slot w unguarded : Obligation (sig K)) w := closesOn_stream w
  have hperf : ∀ t0 : K, (slot w unguarded).Quiet [⟨.perfCounter, t0⟩] := fun t0 =>
    Obligation.quiet_cons rfl Bool.false_ne_true Obligation.quiet_nil
  have hhead : ∀ t0 : K, (slot w unguarded).Quiet [⟨.perfCounter, t0⟩, ⟨.buildRequest .first (request b), .ok ()⟩] :=
    fun t0 => Obligation.quiet_cons rfl Bool.false_ne_true
      (Obligation.quiet_cons rfl Bool.false_ne_true Obligation.quiet_nil)
  have hskip : ∀ (t0 : K) t', Opened (⟨.perfCounter, t0⟩ :: ⟨.buildRequest .first (request b), .ok ()⟩ :: t') ↔
      Opened t' := fun t0 t' => (opened_cons rfl _).trans (opened_cons rfl _)
  obtain ⟨t0, ⟨text, rfl⟩ | ⟨t', rfl, ⟨e, he⟩ | ⟨status, t₁, t₂, rfl, h1, h2⟩⟩⟩ := exec_openedStream hb h
  · exact .inl ⟨(hperf t0).append_accounted (Obligation.accounted_lose rfl rfl), .inr (by simp [Opened, opens])⟩
  · rcases hO.orRelease htracks he with ⟨_, he', -⟩ | ⟨-, ha⟩
    · cases he'
    · refine .inl ⟨(hhead t0).append_accounted ha, .inr ?_⟩
      rw [hskip, opening_orRelease hopening _ _ he]
      rintro ⟨_, he', -⟩; cases he'
  · rcases hO.orRelease htracks h1 with ⟨_, -, -, hq⟩ | ⟨⟨_, he⟩, -⟩
    · have hopen : Opened t₁ ↔ status < 400 := by rw [opening_orRelease hopening _ _ h1]; simp
      rcases h2 with ⟨hs, h2⟩ | ⟨hs, h2⟩
      · refine .inl ⟨((hhead t0).append hq).append_accounted (accounts_refusal hrefuse _ _ h2), .inr ?_⟩
        rw [hskip, opened_append, hopen]
        rintro (hlt | ho)
        · omega
        · exact (unopening_refusal hrefuse).not_opened h2 ho
      · rw [serve_streamingResponse] at h2
        cases hok : headersOk headers with
        | true =>
          rw [hok, if_pos rfl] at h2
          exact .inl ⟨((hhead t0).append hq).append_accounted (hgen t0 _ _ h2), .inl rfl⟩
        | false =>
          rw [hok, if_neg Bool.false_ne_true] at h2
          obtain ⟨rfl, -⟩ := (exec_py _ _ _).1 h2
          refine .inr ⟨(((hhead t0).append hq).append Obligation.quiet_nil).1, rfl, ?_⟩
          rw [hskip, opened_append]
          exact .inl (hopen.2 hs)
    · cases he

/-- A streaming handler admitted on `w` gives the slot back exactly once when its backend is known, no
unguarded call fails, and a stream that was opened can be announced. -/
theorem openedStream_closes_iff (htracks : ∀ b, (slot w unguarded).Tracks Interrupts (opening b))
    (hopening : ∀ b, Opening (opening b)) (hrefuse : ∀ raw status, Inert (serve (refuse raw status)))
    (hgen : ∀ t0, (slot w unguarded).Accounts (gen t0))
    (h : (serve (openedStream G w tokens request opening refuse
      fun t0 => streamingResponse 200 mediaType headers (gen t0))).Exec t x) :
    closings w t = 1 ↔ w ∈ G.pool.ids ∧ (∀ ev ∈ t, ¬ unguarded ev = true) ∧ (headersOk headers = true ∨ ¬ Opened t) := by
  cases hb : G.pool.get? w with
  | none =>
    unfold openedStream at h
    rw [hb] at h
    obtain ⟨rfl, -⟩ : t = [] ∧ x = .error (.exception (.python .keyError)) := h
    simp [BackendPool.get?_eq_none_iff.1 hb, closings]
  | some b =>
    have hmem : w ∈ G.pool.ids := List.mem_map.2 ⟨b, BackendPool.get?_some hb⟩
    rcases openedStream_accounted hb (htracks b) (hopening b) hrefuse hgen h with ⟨hacc, hok⟩ | ⟨hzero, hok, ho⟩
    · rw [show closings w t = 1 ↔ ∀ ev ∈ t, ¬ unguarded ev = true from hacc.weight_eq_one_iff]
      simp only [hmem, hok, true_and, and_true]
    · simp [hzero, hok, ho]

/-- The calls of an admitted stream: plain ones, the request built for its backend and the opening. -/
theorem only_openedStream {P : Event (sig K) → Prop} (hplain : ∀ ev : Event (sig K), Call.plain ev.op = true → P ev)
    (hrequest : ∀ b r, G.pool.get? w = some b → P ⟨.buildRequest .first (request b), r⟩)
    (hopening : ∀ b, G.pool.get? w = some b → Prog.Only P (opening b))
    (hrefuse : ∀ raw status, Inert (serve (refuse raw status))) (hgen : ∀ t0, Plain (gen t0)) :
    Prog.Only P (serve (openedStream G w tokens request opening refuse
      fun t0 => streamingResponse 200 mediaType headers (gen t0))) := by
  unfold openedStream
  cases hb : G.pool.get? w with
  | none => exact Prog.Only.raise _
  | some b =>
    rw [Option.elim_some, py_ok_bind]
    simp only [serve_bind]
    refine Prog.Only.bind (Prog.Only.call fun _ => hplain _ rfl) fun t0 =>
      Prog.Only.bind (Prog.Only.ask fun r => hrequest b r hb) fun _ =>
        Prog.Only.bind (only_orRelease (hopening b hb) (hplain _ rfl)) fun status => ?_
    split
    · rw [serve_bind]
      exact Prog.Only.mono (Prog.Only.bind plain_refused fun raw => (hrefuse raw status).plain) hplain
    · rw [serve_streamingResponse]
      split
      · exact Prog.Only.mono (hgen t0) hplain
      · exact Prog.Only.mono inert_py.plain hplain

end Handler

end Field

/-! ## The two streaming proxies -/

theorem inert_serve_streamingResponse {status : Nat} {mediaType : String} {headers : Dict String String}
    {gen : Co K Unit} (h : Inert gen) : Inert (serve (streamingResponse status mediaType headers gen)) := by
  rw [serve_streamingResponse]
  split
  · exact h
  · exact inert_py

theorem inert_relayRefusal {raw : List UInt8} {status : Nat} : Inert (serve (relayRefusal raw status : Co K (Reply K))) := by
  unfold relayRefusal
  rw [serve_bind]
  exact Prog.Only.bind inert_jsonResponse fun _ => Prog.Only.ret _

theorem inert_ollamaRefusal {G : DioGateway K} {raw : List UInt8} {status : Nat} :
    Inert (serve (ollamaRefusal G raw status)) :=
  inert_serve_streamingResponse (Prog.Only.ask fun _ => rfl)

theorem serve_admission (G : DioGateway K) (body : Obj) (tier : String) (allowed : Option (List String))
    (reject : AdmissionError → Co K (Reply K)) (accept : String → Int → String → RoutingDecision K → Co K (Reply K)) :
    serve (admission G body tier allowed reject accept) =
      admission G body tier allowed (fun e => serve (reject e)) fun prompt tokens w d => serve (accept prompt tokens w d) := by
  unfold admission
  simp only [serve_bind]
  refine congrArg _ (funext fun prompt => congrArg _ (funext fun tokens => congrArg _ (funext fun r => ?_)))
  cases r <;> rfl

theorem latin1_append (a b : String) : latin1 (a ++ b) = (latin1 a && latin1 b) := by
  simp [latin1, List.all_append]

theorem latin1_nat (n : Nat) : latin1 (toString n) = true := by
  have hdigit : ∀ c ∈ (Nat.repr n).toList, c.isDigit = true := fun c hc => by
    rw [Nat.repr, String.toList_ofList] at hc
    exact Nat.isDigit_of_mem_toDigits (by decide) (by decide) hc
  simp only [latin1, List.all_eq_true, decide_eq_true_eq]
  intro c hc
  have hle : c.toNat ≤ 57 := by
    have h := hdigit c hc
    simp only [Char.isDigit, Bool.and_eq_true, decide_eq_true_eq] at h
    exact h.2
  omega

theorem latin1_int : ∀ n : Int, latin1 (toString n) = true
  | .ofNat n => latin1_nat n
  | .negSucc n => by
    show latin1 ("-" ++ Nat.repr (n + 1)) = true
    rw [latin1_append, show latin1 (Nat.repr (n + 1)) = true from latin1_nat (n + 1)]
    decide

variable [Field K] [LinearOrder K] [FloorRing K]

theorem latin1_fixed0 (y : K) : latin1 (fixed0 y) = true := latin1_int _

theorem latin1_fixed1 (y : K) : latin1 (fixed1 y) = true := by
  have hdot : latin1 "." = true := by decide
  have hminus : latin1 "-" = true := by decide
  unfold fixed1
  dsimp only
  split <;> simp only [latin1_append, latin1_nat, hdot, hminus, Bool.and_self]

/-- Only the worker's id can keep a stream from being announced. -/
theorem headersOk_streamHeaders (G : DioGateway K) (w : String) (d : RoutingDecision K) :
    headersOk (streamHeaders G w d) = latin1 w := by
  have hcache : latin1 "no-cache" = true := by decide
  simp [headersOk, streamHeaders, latin1_fixed0, latin1_fixed1, hcache]

/-- `_relay_stream` or `_proxy_ollama_stream`. -/
inductive StreamHandler
  | relay (mediaType : String)
  | ollama (isChat : Bool)

def StreamHandler.proxy (G : DioGateway K) (s : StreamHandler) (body : Obj) (path : Path) (tier : String)
    (allowed : Option (List String)) : Co K (Reply K) :=
  match s with
  | .relay mediaType => relayStream G body path tier allowed mediaType
  | .ollama isChat => proxyOllamaStream G body path tier isChat allowed

/-- What a streaming handler does once it is admitted on `w`. -/
theorem exec_stream_admitted {G : DioGateway K} {s : StreamHandler} {body : Obj} {path : Path} {tier : String}
    {allowed : Option (List String)} {t : List (Event (sig K))} {x : Except Exn Unit}
    (h : (serve (s.proxy G body path tier allowed)).Exec t x) {a : PickArgs} {w : String} {d : RoutingDecision K}
    (hpick : ⟨.pick a, .ok (w, d)⟩ ∈ t) :
    ∃ prompt tokens t', t = ⟨.pick a, .ok (w, d)⟩ :: t' ∧
      match s with
      | .relay mediaType => (serve (relayAdmitted G body path mediaType prompt tokens w d)).Exec t' x
      | .ollama isChat => (serve (ollamaAdmitted G body path isChat prompt tokens w d)).Exec t' x := by
  cases s with
  | relay mediaType =>
    rw [StreamHandler.proxy, relayStream, serve_admission] at h
    obtain ⟨prompt, tokens, t', -, -, -, rfl, h'⟩ := exec_admission_on
      (fun _ => (inert_serve_streamingResponse inert_yieldAll).plain.pickless)
      (fun _ _ _ _ => only_openedStream (fun _ => Call.pickless_of_plain) (fun _ _ _ => rfl)
        (fun _ _ => Prog.Only.ask fun _ => rfl) (fun _ _ => inert_relayRefusal)
        fun _ => plain_relayed inert_relayChunks fun _ => Prog.Only.ret _) h hpick
    exact ⟨prompt, tokens, t', rfl, h'⟩
  | ollama isChat =>
    rw [StreamHandler.proxy, proxyOllamaStream, serve_admission] at h
    obtain ⟨prompt, tokens, t', -, -, -, rfl, h'⟩ := exec_admission_on
      (fun _ => (inert_serve_streamingResponse (Prog.Only.ask fun _ => rfl)).plain.pickless)
      (fun _ _ _ _ => only_openedStream (fun _ => Call.pickless_of_plain) (fun _ _ _ => rfl)
        (fun _ _ => only_openOllama (fun _ => Call.pickless_of_plain) (fun _ => rfl) fun _ _ => rfl)
        (fun _ _ => inert_ollamaRefusal) fun _ => plain_relayed inert_readOllama fun _ => inert_finishOllama) h hpick
    exact ⟨prompt, tokens, t', rfl, h'⟩

/-- A streamed request admitted on `w` gives its slot back exactly once when the backend is known, no
unguarded call fails, and the id of a worker whose stream was opened can be sent in a header. -/
theorem stream_closes_once_iff (G : DioGateway K) (s : StreamHandler) (body : Obj) (path : Path) (tier : String)
    (allowed : Option (List String)) {t : List (Event (sig K))} {x : Except Exn Unit}
    (h : (serve (s.proxy G body path tier allowed)).Exec t x) {a : PickArgs} {w : String} {d : RoutingDecision K}
    (hpick : ⟨.pick a, .ok (w, d)⟩ ∈ t) :
    closings w t = 1 ↔ w ∈ G.pool.ids ∧ (∀ ev ∈ t, ¬ unguarded ev = true) ∧ (latin1 w = true ∨ ¬ Opened t) := by
  obtain ⟨prompt, tokens, t', rfl, h'⟩ := exec_stream_admitted h hpick
  have hclosed : closings w t' = 1 ↔
      w ∈ G.pool.ids ∧ (∀ ev ∈ t', ¬ unguarded ev = true) ∧ (latin1 w = true ∨ ¬ Opened t') := by
    rw [← headersOk_streamHeaders G w d]
    cases s with
    | relay mediaType =>
      exact openedStream_closes_iff (fun _ => tracks_send) (fun _ => opening_send _) (fun _ _ => inert_relayRefusal)
        (fun _ => accounts_relayed inert_relayChunks fun _ => Prog.Only.ret _) h'
    | ollama isChat =>
      exact openedStream_closes_iff (fun _ => tracks_openOllama) (fun _ => opening_openOllama)
        (fun _ _ => inert_ollamaRefusal) (fun _ => accounts_relayed inert_readOllama fun _ => inert_finishOllama) h'
  have hcons : closings w (⟨.pick a, .ok (w, d)⟩ :: t') = closings w t' := by simp [closings, closing]
  rw [hcons, hclosed, opened_cons rfl]
  simp [unguarded]

/-- A relayed completion gives its slot back. -/
theorem stream_closes_once_hello :
    closings "gpu0" (Prog.run (Answers.env {})
      (serve ((StreamHandler.relay "text/event-stream").proxy oneBackend hello .completions "small" none))).1 = 1 :=
  (stream_closes_once_iff oneBackend (.relay "text/event-stream") hello .completions "small" none (Prog.exec_run _ _)
    (List.mem_of_getElem? (i := 0) rfl)).2 ⟨by decide, by decide +kernel, .inl (by decide)⟩

/-- A relayed completion answered 500 whose error reply breaks off never gives its slot back. -/
theorem stream_refused_keeps_slot :
    ∃ (t : List (Event (sig ℚ))) (x : Except Exn Unit) (a : PickArgs),
      (serve ((StreamHandler.relay "text/event-stream").proxy oneBackend hello .completions "small" none)).Exec t x ∧
        ⟨.pick a, .ok ("gpu0", decisionOn)⟩ ∈ t ∧ closings "gpu0" t = 0 :=
  ⟨_, _, _, Prog.exec_run (Answers.env { send := fun _ => .returned 500, aread := .raised "peer closed connection" }) _,
    List.mem_of_getElem? (i := 0) rfl, by decide +kernel⟩

end Dio.Gateway
