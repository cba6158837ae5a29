/-
A client that hangs up. The consumer of a stream stops by cancelling an await of its generator or by
closing the generator at a yield. Only a cancelled read is recognised as a client that is gone; a
generator that is closed is booked as a failed stream, and one cancelled while it closes the upstream
stream books nothing and keeps the slot.
-/
import DioServe.Gateway.Counters

namespace Dio.Gateway

open Data Py Effect Scheduler

variable {K : Type}

/-! ## Where the consumer stops -/

def Resume.isClose : Resume → Bool
  | .close => true
  | .next => false

/-- The consumer stops here: an await of the generator is cancelled, or the generator is closed at a
yield. -/
def stops : Event (sig K) → Bool
  | ⟨.iterEnd, r⟩ => Outcome.isCancelled r
  | ⟨.aclose _, r⟩ => Outcome.isCancelled r
  | ⟨.yield _, r⟩ => Resume.isClose r
  | _ => false

/-- The stop reaches the generator as a `CancelledError` while it awaits the next chunk. -/
def cancelsRead : Event (sig K) → Bool
  | ⟨.iterEnd, r⟩ => Outcome.isCancelled r
  | _ => false

/-- An await or a yield of the `try` of a generator raises `e`. -/
def raises (e : Exn) : Event (sig K) → Prop
  | ⟨.iterEnd, r⟩ => Outcome.toExcept r = .error e
  | ⟨.yield _, r⟩ => Resume.toExcept r = .error e
  | _ => False

/-- Whether an event is a call on the scheduler. -/
def scheduled : Event (sig K) → Nat
  | ⟨.pick _, _⟩ | ⟨.feedback .., _⟩ | ⟨.release _, _⟩ | ⟨.noteFailure _, _⟩ => 1
  | _ => 0

theorem raises_cancelled (ev : Event (sig K)) : raises .cancelled ev ↔ cancelsRead ev = true := by
  obtain ⟨c, r⟩ := ev
  cases c with
  | iterEnd => cases r <;> simp [raises, cancelsRead, Outcome.toExcept, Outcome.isCancelled]
  | yield frame => cases r <;> simp [raises, cancelsRead, Resume.toExcept]
  | _ => simp [raises, cancelsRead]

/-- Before the upstream stream is closed, a stop is a cancelled read or a closed generator. -/
theorem stops_of_inert {ev : Event (sig K)} (h : Call.inert ev.op = true) (hs : stops ev = true) :
    cancelsRead ev = true ∨ raises .generatorExit ev := by
  obtain ⟨c, r⟩ := ev
  cases c with
  | iterEnd => exact .inl hs
  | yield frame =>
    cases r with
    | next => cases hs
    | close => exact .inr rfl
  | aclose _ => cases h
  | _ => cases hs

/-! ## Reading a stream -/

/-- No call on the scheduler, and `e` is raised where an await or a yield raises it. -/
def raising (e : Exn) : Obligation (sig K) := ⟨scheduled, raises e⟩

variable {e : Exn}

theorem tracks_iterEnd : (raising e).Tracks (· = e) (iterEnd : Co K Unit) :=
  Obligation.Tracks.ask (fun _ => rfl) fun _ => exists_eq_right

theorem tracks_yield {frame : Frame} : (raising e).Tracks (· = e) (yield frame : Co K Unit) :=
  Obligation.Tracks.ask (fun _ => rfl) fun _ => exists_eq_right

theorem tracks_yieldAll {frames : List Frame} : (raising e).Tracks (· = e) (yieldAll frames : Co K Unit) :=
  Obligation.Tracks.forEach (fun _ => tracks_yield) frames

theorem tracks_relayChunks : (raising e).Tracks (· = e) (relayChunks : Co K Unit) :=
  Obligation.Tracks.bind (Obligation.Tracks.call (fun _ => rfl) fun _ h => h) fun _ =>
    Obligation.Tracks.bind tracks_yieldAll fun _ => tracks_iterEnd

theorem tracks_translateChunks {G : DioGateway K} {p : TranslParams} : ∀ {chunks : List (List UInt8)}
    {st : Text.Lines.Feed Transl}, (raising e).Tracks (· = e) (translateChunks G p st chunks)
  | [], _ => Obligation.Tracks.bind tracks_iterEnd fun _ => Obligation.Tracks.ret _
  | _ :: _, _ => by
    unfold translateChunks
    refine Obligation.Tracks.bind tracks_yieldAll fun _ => ?_
    split
    · exact Obligation.Tracks.ret _
    · exact tracks_translateChunks

theorem tracks_readOllama {G : DioGateway K} {p : TranslParams} : (raising e).Tracks (· = e) (readOllama G p) :=
  Obligation.Tracks.bind (Obligation.Tracks.call (fun _ => rfl) fun _ h => h) fun _ => tracks_translateChunks

theorem tracks_finishOllama {p : TranslParams} {st : Text.Lines.Feed Transl} :
    (raising e).Tracks (· = e) (finishOllama p st : Co K Unit) :=
  Obligation.Tracks.bind (Obligation.Tracks.call (fun _ => rfl) fun _ h => h) fun _ => tracks_yield

/-- The `try` of a generator ends as its reading and its closing frames do in sequence. -/
theorem exec_try {α : Type} {read : Co K α} {finish : α → Co K Unit} {t : List (Event (sig K))} {streamOk : Bool}
    {outcome : Except Exn Unit} (h : (tryStream read finish).Exec t (.ok (streamOk, outcome))) :
    (read >>= finish).Exec t outcome := by
  rcases exec_tryStream h with ⟨a, t₁, t₂, y, h1, h2, rfl, hy⟩ | ⟨e, h1, he⟩
  · cases hy
    exact (Prog.exec_bind _ _ _ _).2 (.inl ⟨a, t₁, t₂, h1, h2, rfl⟩)
  · cases he
    exact (Prog.exec_bind _ _ _ _).2 (.inr ⟨e, h1, rfl⟩)

/-! ## Handling the end of a stream -/

/-- A program that awaits no chunk that is cancelled. -/
def Uncancelled {α : Type} (p : Co K α) : Prop := Prog.Only (fun ev => cancelsRead ev = false) p

theorem uncancelled_onException {w : String} {report : String → List Frame} {outcome : Except Exn Unit} :
    Uncancelled (onException w report outcome : Co K Unit) := by
  unfold onException
  split
  · exact Prog.Only.ret _
  · exact Prog.Only.bind (Prog.Only.call fun _ => rfl) fun _ => Prog.Only.forEach (fun _ => Prog.Only.ask fun _ => rfl) _
  · exact Prog.Only.raise _

section Field

variable [Field K]

theorem uncancelled_closeOut {w : String} {t0 : K} {tokens : Int} {clientGone streamOk : Bool} :
    Uncancelled (closeOut w t0 tokens clientGone streamOk) := by
  refine Prog.Only.bind (Prog.Only.bind (Prog.Only.call fun _ => rfl) fun _ => Prog.Only.ret _) fun _ =>
    Prog.Only.bind (Prog.Only.ask fun _ => rfl) fun _ => ?_
  split <;> exact Prog.Only.call fun _ => rfl

/-- `finally`: the upstream stream is closed, then the request; unless closing the stream raises. -/
theorem exec_closeOut_cases {w : String} {t0 : K} {tokens : Int} {clientGone streamOk : Bool} {t : List (Event (sig K))}
    {x : Except Exn Unit} (h : (closeOut w t0 tokens clientGone streamOk).Exec t x) :
    ∃ (now : K) (r : Outcome Unit), (Outcome.isReturned r = false ∧ t = [⟨.perfCounter, now⟩, ⟨.aclose .final, r⟩]) ∨
      (r = .returned () ∧ t = [⟨.perfCounter, now⟩, ⟨.aclose .final, r⟩,
        if clientGone then ⟨.release w, ()⟩ else ⟨.feedback w ((now - t0) * 1000) tokens streamOk, ()⟩]) := by
  obtain ⟨now, t₁, rfl, h1⟩ := (Prog.exec_call_bind (S := sig K) _ _ _ _).1 h
  refine ⟨now, ?_⟩
  rcases (Prog.exec_bind _ _ _ _).1 h1 with ⟨_, t₂, t₃, h2, h3, rfl⟩ | ⟨e, h2, -⟩
  · obtain ⟨r, rfl, hr⟩ := (exec_aclose _ _ _).1 h2
    cases r with
    | returned _ =>
      refine ⟨.returned (), .inr ⟨rfl, ?_⟩⟩
      cases clientGone with
      | true => obtain ⟨rfl, -⟩ := (exec_release _ _ _).1 h3; rfl
      | false => obtain ⟨rfl, -⟩ := (exec_feedback _ _ _ _ _ _).1 h3; rfl
    | raised _ => cases hr
    | cancelled => cases hr
  · obtain ⟨r, rfl, hr⟩ := (exec_aclose _ _ _).1 h2
    refine ⟨r, .inl ⟨?_, rfl⟩⟩
    cases r with
    | returned _ => cases hr
    | raised _ => rfl
    | cancelled => rfl

/-- `finally`, when the upstream stream could be closed. -/
theorem exec_closeOut {w : String} {t0 : K} {tokens : Int} {clientGone streamOk : Bool} {t : List (Event (sig K))}
    {x : Except Exn Unit} (h : (closeOut w t0 tokens clientGone streamOk).Exec t x)
    (hclosed : ∀ ev ∈ t, ¬ unguarded ev = true) :
    ∃ now : K, t = [⟨.perfCounter, now⟩, ⟨.aclose .final, .returned ()⟩,
      if clientGone then ⟨.release w, ()⟩ else ⟨.feedback w ((now - t0) * 1000) tokens streamOk, ()⟩] := by
  obtain ⟨now, r, ⟨hr, rfl⟩ | ⟨rfl, rfl⟩⟩ := exec_closeOut_cases h
  · exact absurd (show (!Outcome.isReturned r) = true by rw [hr]; rfl) (hclosed ⟨.aclose .final, r⟩ (by simp))
  · exact ⟨now, rfl⟩

/-- How a generator's run falls into its `try`, its handlers and its `finally`. -/
theorem exec_relayed_try {α : Type} {w : String} {t0 : K} {tokens : Int} {read : Co K α} {finish : α → Co K Unit}
    {report : String → List Frame} {t : List (Event (sig K))} {x : Except Exn Unit}
    (h : (relayed w t0 tokens read finish report).Exec t x) :
    ∃ streamOk outcome t₁ t₂ t₃, (tryStream read finish).Exec t₁ (.ok (streamOk, outcome)) ∧
      (∃ y, (onException w report outcome).Exec t₂ y) ∧
      (∃ y, (closeOut w t0 tokens (cancelled? outcome) streamOk).Exec t₃ y) ∧ t = t₁ ++ (t₂ ++ t₃) := by
  obtain ⟨⟨streamOk, outcome⟩, t₁, t', h1, h', rfl⟩ := noRaise_tryStream.exec_bind h
  obtain ⟨outcome', t₂, t'', h2, h'', rfl⟩ := (Prog.exec_attempt_bind _ _ _ _).1 h'
  obtain ⟨y, h3⟩ := exec_bind_silent (fun _ => Prog.Only.ofExcept _) h''
  exact ⟨streamOk, outcome, t₁, t₂, t'', h1, ⟨outcome', h2⟩, ⟨y, h3⟩, rfl⟩

theorem exec_relayed {α : Type} {w : String} {t0 : K} {tokens : Int} {read : Co K α} {finish : α → Co K Unit}
    {report : String → List Frame} {t : List (Event (sig K))} {x : Except Exn Unit}
    (h : (relayed w t0 tokens read finish report).Exec t x) :
    ∃ streamOk outcome t₁ t₂ t₃, (read >>= finish).Exec t₁ outcome ∧ (∃ y, (onException w report outcome).Exec t₂ y) ∧
      (∃ y, (closeOut w t0 tokens (cancelled? outcome) streamOk).Exec t₃ y) ∧ t = t₁ ++ (t₂ ++ t₃) := by
  obtain ⟨streamOk, outcome, t₁, t₂, t₃, h1, h2, h3, ht⟩ := exec_relayed_try h
  exact ⟨streamOk, outcome, t₁, t₂, t₃, exec_try h1, h2, h3, ht⟩

end Field

/-! ## What the calls of a generator do to the scheduler -/

section Scheduler

variable [Field K] [LinearOrder K] [FloorRing K] (cfg : Cfg K)

/-- The scheduler after one call. -/
def effect (s : State K) (ev : Event (sig K)) : State K :=
  match schedulerSem cfg ev.op with
  | some f => (f s).2
  | none => s

/-- The scheduler after the calls of a history. -/
def replay (s : State K) (t : List (Event (sig K))) : State K := t.foldl (effect cfg) s

/-- The history gives back one slot of `w` and books nothing: the worker only has one slot more, and
the counters, the observed latencies and the failure streaks stay. -/
structure Blameless (w : String) (t : List (Event (sig K))) (s : State K) : Prop where
  slot : closings w t = 1
  worker : Dict.get? (replay cfg s t).predictors w =
    (Dict.get? s.predictors w).map fun x => { x with nlms := x.nlms.free }
  completedTotal : (replay cfg s t).admission.completedTotal = s.admission.completedTotal
  failedTotal : (replay cfg s t).admission.failedTotal = s.admission.failedTotal
  recentE2e : (replay cfg s t).recentE2e = s.recentE2e
  failStreak : (replay cfg s t).failStreak = s.failStreak

variable {cfg}

theorem effect_unscheduled (s : State K) {ev : Event (sig K)} (h : scheduled ev = 0) : effect cfg s ev = s := by
  obtain ⟨c, r⟩ := ev
  cases c <;> first | rfl | cases h

@[simp] theorem replay_cons (s : State K) (ev : Event (sig K)) (t : List (Event (sig K))) :
    replay cfg s (ev :: t) = replay cfg (effect cfg s ev) t := rfl

@[simp] theorem replay_append (s : State K) (t t' : List (Event (sig K))) :
    replay cfg s (t ++ t') = replay cfg (replay cfg s t) t' := List.foldl_append

theorem replay_unscheduled : ∀ {t : List (Event (sig K))} (s : State K), Machine.weight scheduled t = 0 →
    replay cfg s t = s
  | [], _, _ => rfl
  | ev :: t, s, h => by
    rw [Machine.weight_cons] at h
    rw [replay_cons, effect_unscheduled s (by omega), replay_unscheduled s (by omega)]

/-- How many requests have finished. -/
def finished (s : State K) : Nat := s.admission.completedTotal + s.admission.failedTotal

omit [FloorRing K] in
theorem finished_feedback (s : State K) (w : String) (e2eMs : K) (tokens : Int) (success : Bool) :
    finished (Scheduler.feedback cfg s w e2eMs tokens success) = finished s + 1 := by
  have hf := feedback_outcomes cfg s w e2eMs tokens success
  simp only [AdmissionStats.outcomes, Prod.mk.injEq] at hf
  unfold finished
  cases success <;> simp [hf.2.1, hf.2.2] <;> omega

theorem finished_effect (s : State K) (ev : Event (sig K)) : finished s ≤ finished (effect cfg s ev) := by
  unfold effect
  cases hsem : schedulerSem cfg ev.op with
  | none => exact le_rfl
  | some φ =>
    rcases outcomes_of_sem hsem s with ⟨w, e2eMs, tokens, success, -, h⟩ | ⟨-, h⟩
    · show finished s ≤ finished (φ s).2
      rw [h, finished_feedback]
      exact Nat.le_succ _
    · simp only [AdmissionStats.outcomes, Prod.mk.injEq] at h
      show finished s ≤ finished (φ s).2
      unfold finished
      omega

theorem finished_replay : ∀ (t : List (Event (sig K))) (s : State K), finished s ≤ finished (replay cfg s t)
  | [], _ => le_rfl
  | ev :: t, s => (finished_effect s ev).trans (finished_replay t (effect cfg s ev))

/-- A history with a `feedback` finishes a request. -/
theorem finished_of_feedback {w : String} {e2eMs : K} {tokens : Int} {success : Bool} {t : List (Event (sig K))}
    (h : ⟨.feedback w e2eMs tokens success, ()⟩ ∈ t) (s : State K) : finished s < finished (replay cfg s t) := by
  obtain ⟨t₁, t₂, rfl⟩ := List.append_of_mem h
  rw [replay_append, replay_cons]
  have hbefore : finished s ≤ finished (replay cfg s t₁) := finished_replay t₁ s
  have hone : finished (Scheduler.feedback cfg (replay cfg s t₁) w e2eMs tokens success) =
      finished (replay cfg s t₁) + 1 := finished_feedback _ w e2eMs tokens success
  have hafter : finished (Scheduler.feedback cfg (replay cfg s t₁) w e2eMs tokens success) ≤
      finished (replay cfg (Scheduler.feedback cfg (replay cfg s t₁) w e2eMs tokens success) t₂) := finished_replay t₂ _
  show finished s < finished (replay cfg (Scheduler.feedback cfg (replay cfg s t₁) w e2eMs tokens success) t₂)
  omega

/-- Nothing blameless finishes a request. -/
theorem Blameless.unfinished {w : String} {t : List (Event (sig K))} {s : State K} (h : Blameless cfg w t s) :
    finished (replay cfg s t) = finished s := by
  unfold finished
  rw [h.completedTotal, h.failedTotal]

/-- One `release` is blameless. -/
theorem blameless_release {w : String} {t : List (Event (sig K))} (ht : Machine.weight scheduled t = 0)
    (hslot : closings w t = 0) {now : K} (s : State K) :
    Blameless cfg w (t ++ [⟨.perfCounter, now⟩, ⟨.aclose .final, .returned ()⟩, ⟨.release w, ()⟩]) s := by
  have hreplay : replay cfg s (t ++ [⟨.perfCounter, now⟩, ⟨.aclose .final, .returned ()⟩, ⟨.release w, ()⟩]) =
      Scheduler.release s w := by
    rw [replay_append, replay_unscheduled s ht]
    rfl
  refine ⟨?_, ?_, ?_, ?_, ?_, ?_⟩
  · unfold closings at hslot ⊢
    rw [Machine.weight_append, hslot]
    simp [closing]
  · rw [hreplay]
    exact (State.get?_onNlms s w w _).trans (if_pos rfl)
  all_goals rw [hreplay]; rfl

/-! ## The generators -/

/-- When the consumer of a relayed stream stops, the run is blameless exactly when every stop is a
cancelled read and the upstream stream could be closed. -/
theorem relayed_blameless_iff {α : Type} {w : String} {t0 : K} {tokens : Int} {read : Co K α} {finish : α → Co K Unit}
    {report : String → List Frame} (hr : Inert read) (hf : ∀ a, Inert (finish a))
    (htry : ∀ e, (raising e).Tracks (· = e) (read >>= finish)) {t : List (Event (sig K))} {x : Except Exn Unit}
    (h : (relayed w t0 tokens read finish report).Exec t x) (hstop : ∃ ev ∈ t, stops ev = true) (s : State K) :
    Blameless cfg w t s ↔ (∀ ev ∈ t, stops ev = true → cancelsRead ev = true) ∧ ∀ ev ∈ t, ¬ unguarded ev = true := by
  have hslot : closings w t = 1 ↔ ∀ ev ∈ t, ¬ unguarded ev = true := (accounts_relayed hr hf t x h).weight_eq_one_iff
  obtain ⟨streamOk, outcome, t₁, t₂, t₃, h1, ⟨y₂, h2⟩, ⟨y₃, h3⟩, rfl⟩ := exec_relayed h
  have hinert : ∀ ev ∈ t₁, Call.inert ev.op = true := Prog.Only.bind hr hf _ _ h1
  have htracks : ∀ e, outcome = .error e ↔ ∃ ev ∈ t₁, raises e ev := fun e => by
    have h := (htry e _ _ h1).2
    simpa [raising] using h
  have hgone : cancelled? outcome = true → outcome = .error .cancelled := fun h => by
    unfold cancelled? at h
    split at h
    · rfl
    · cases h
  constructor
  · intro hb
    have hclosed := hslot.1 hb.slot
    refine ⟨?_, hclosed⟩
    have hclosed₃ : ∀ ev ∈ t₃, ¬ unguarded ev = true := fun ev hev => hclosed ev (by simp [hev])
    obtain ⟨now, rfl⟩ := exec_closeOut h3 hclosed₃
    cases hg : cancelled? outcome with
    | false =>
      -- the request is booked as finished
      rw [hg, if_neg Bool.false_ne_true] at hb
      have hmem : (⟨.feedback w ((now - t0) * 1000) tokens streamOk, ()⟩ : Event (sig K)) ∈ t₁ ++ (t₂ ++
          [⟨.perfCounter, now⟩, ⟨.aclose .final, .returned ()⟩, ⟨.feedback w ((now - t0) * 1000) tokens streamOk, ()⟩]) :=
        List.mem_append_right _ (List.mem_append_right _ (by simp))
      exact absurd hb.unfinished (Nat.ne_of_gt (finished_of_feedback hmem s))
    | true =>
      -- the try ended as cancelled, so no GeneratorExit came out of it
      obtain rfl := hgone hg
      obtain ⟨rfl, -⟩ : t₂ = [] ∧ y₂ = .error .cancelled := h2
      have hnever : ∀ ev ∈ t₁, ¬ raises .generatorExit ev := fun ev hev hraise => by
        cases (htracks .generatorExit).2 ⟨ev, hev, hraise⟩
      intro ev hev hs
      rcases List.mem_append.1 hev with hev | hev
      · exact (stops_of_inert (hinert ev hev) hs).resolve_right (hnever ev hev)
      · simp only [List.nil_append, List.mem_cons, List.not_mem_nil, or_false] at hev
        rcases hev with rfl | rfl | rfl <;> cases hs
  · rintro ⟨hcancel, hclosed⟩
    have hclosed₃ : ∀ ev ∈ t₃, ¬ unguarded ev = true := fun ev hev => hclosed ev (by simp [hev])
    obtain ⟨now, rfl⟩ := exec_closeOut h3 hclosed₃
    obtain ⟨ev, hev, hs⟩ := hstop
    have hcancelled := hcancel ev hev hs
    -- only the reading of the stream has awaits that are cancelled like this
    have houtcome : outcome = .error .cancelled := by
      refine (htracks .cancelled).2 ⟨ev, ?_, (raises_cancelled ev).2 hcancelled⟩
      rcases List.mem_append.1 hev with hev | hev
      · exact hev
      · have hno : cancelsRead ev = false := by
          rcases List.mem_append.1 hev with hev | hev
          · exact uncancelled_onException _ _ h2 ev hev
          · exact uncancelled_closeOut _ _ h3 ev hev
        rw [hno] at hcancelled; cases hcancelled
    subst houtcome
    obtain ⟨rfl, -⟩ : t₂ = [] ∧ y₂ = .error .cancelled := h2
    have hquiet : Machine.weight scheduled t₁ = 0 := (htry .cancelled _ _ h1).1
    refine blameless_release hquiet ?_ s
    exact Machine.weight_eq_zero fun ev hev => closing_inert w (hinert ev hev)

/-- The generator a streaming handler hands over. -/
def StreamHandler.generator (G : DioGateway K) (h : StreamHandler) (body : Obj) (prompt w : String) (t0 : K)
    (tokens : Int) : Co K Unit :=
  match h with
  | .relay _ => relayGen w t0 tokens
  | .ollama isChat => ollamaGen G w t0 tokens (translParams G body isChat prompt)

/-- A stream whose consumer stops gives its slot back and books nothing exactly when every stop is a
cancelled read and the upstream stream could be closed. -/
theorem hangup_blameless_iff (G : DioGateway K) (cfg : Cfg K) (handler : StreamHandler) (body : Obj) (prompt w : String)
    (t0 : K) (tokens : Int) {t : List (Event (sig K))} {x : Except Exn Unit}
    (h : (handler.generator G body prompt w t0 tokens).Exec t x) (hstop : ∃ ev ∈ t, stops ev = true) (s : State K) :
    Blameless cfg w t s ↔ (∀ ev ∈ t, stops ev = true → cancelsRead ev = true) ∧ ∀ ev ∈ t, ¬ unguarded ev = true := by
  cases handler with
  | relay mediaType =>
    refine relayed_blameless_iff inert_relayChunks (fun _ => Prog.Only.ret _) (fun e => ?_) h hstop s
    exact Obligation.Tracks.bind tracks_relayChunks fun _ => Obligation.Tracks.ret _
  | ollama isChat =>
    refine relayed_blameless_iff inert_readOllama (fun _ => inert_finishOllama) (fun e => ?_) h hstop s
    exact Obligation.Tracks.bind tracks_readOllama fun _ => tracks_finishOllama

end Scheduler

/-! ## A stream of one chunk -/

/-- A completion streamed from `gpu0`, whose engine sends one chunk. -/
def oneChunk (A : Answers) : List (Event (sig ℚ)) :=
  (Prog.run (Answers.env { A with chunks := [[104, 105]] })
    ((StreamHandler.relay "text/event-stream").generator oneBackend hello "hello" "gpu0" 0 4)).1

/-- The scheduler once the completion is admitted. -/
def oneAdmitted : State ℚ := (Scheduler.pick defaultCfg (fleet defaultCfg [oneWorker]).sched ⟨"hello", "small", some 4, none⟩).2

/-- A client that goes away while the next chunk is awaited is blameless. -/
theorem hangup_blameless_awaiting : Blameless defaultCfg "gpu0" (oneChunk { iterEnd := .cancelled }) oneAdmitted :=
  (hangup_blameless_iff oneBackend defaultCfg (.relay "text/event-stream") hello "hello" "gpu0" 0 4 (Prog.exec_run _ _)
    (by decide +kernel) oneAdmitted).2 ⟨by decide +kernel, by decide +kernel⟩

/-- A client that goes away while a chunk is sent to it is booked as a failure. -/
theorem hangup_books_failure : ∃ (t : List (Event (sig ℚ))) (x : Except Exn Unit),
    ((StreamHandler.relay "text/event-stream").generator oneBackend hello "hello" "gpu0" 0 4).Exec t x ∧
      (∃ ev ∈ t, stops ev = true) ∧ (∀ ev ∈ t, ¬ unguarded ev = true) ∧ oneAdmitted.admission.failedTotal = 0 ∧
      (replay defaultCfg oneAdmitted t).admission.failedTotal = 1 ∧ ¬ Blameless defaultCfg "gpu0" t oneAdmitted := by
  have hbooked : (replay defaultCfg oneAdmitted (oneChunk { resume := .close })).admission.failedTotal = 1 := by decide +kernel
  have hzero : oneAdmitted.admission.failedTotal = 0 := by decide +kernel
  refine ⟨oneChunk { resume := .close }, _, Prog.exec_run _ _, by decide +kernel, by decide +kernel, hzero, hbooked, ?_⟩
  intro hb
  have heq := hb.failedTotal
  rw [hbooked, hzero] at heq
  cases heq

end Dio.Gateway
