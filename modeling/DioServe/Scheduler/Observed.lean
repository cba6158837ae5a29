/-
What a worker's record says of the worker's own past: every average in it lies amid the latencies that this worker's
requests took since it was registered, however the requests of all workers interleave.
-/
import DioServe.Scheduler.Projection
import DioServe.Stats.Smoothing

namespace Dio.Scheduler

open Data Effect Stats

variable {K : Type}

/-! ## What was observed of a worker -/

/-- The latencies of the successful requests so far; registration starts afresh. -/
def Happening.observe (h : Happening K) (seen : List K) : List K :=
  match h with
  | .registered .. => []
  | .finished e2eMs _ true => seen ++ [e2eMs]
  | _ => seen

theorem observe_quiet {h : Happening K} (hq : h.quiet = true) (seen : List K) : h.observe seen = seen := by
  cases h with
  | registered _ _ _ => cases hq
  | finished _ _ success =>
    cases success with
    | true => cases hq
    | false => rfl
  | _ => rfl

/-- The latencies that a worker's requests took in a run, since it was registered. -/
def observed [Field K] [LinearOrder K] [FloorRing K] (cfg : Cfg K) (w : String) (s : State K) (ms : List (Move K)) :
    List K :=
  Trace.play Happening.observe [] (happenings cfg w s ms)

/-! ## What the record says of it -/

section Learned

/-- What an update of the slot, health or memory leaves alone. -/
structure SameLessons (m m' : DualTimescaleNlms K) : Prop where
  updateCount : m'.updateCount = m.updateCount
  recent : m'.recent = m.recent
  avgLatency : m'.avgLatency = m.avgLatency

theorem SameLessons.trans {m₁ m₂ m₃ : DualTimescaleNlms K} (h : SameLessons m₁ m₂) (h' : SameLessons m₂ m₃) :
    SameLessons m₁ m₃ :=
  ⟨h'.updateCount.trans h.updateCount, h'.recent.trans h.recent, h'.avgLatency.trans h.avgLatency⟩

theorem Booked.sameLessons {m m' : DualTimescaleNlms K} (h : Booked m m') : SameLessons m m' := by
  rw [h.rest]
  exact ⟨rfl, rfl, rfl⟩

variable [Field K] [LinearOrder K]

/-- An average over what was seen: its initial value before anything was. -/
def Averages (seen : List K) (start y : K) : Prop := (seen = [] → y = start) ∧ (seen ≠ [] → Amid seen y)

/-- The record has counted what was seen, keeps the last of it, and averages it. -/
structure Learned (seen : List K) (x : Worker K) : Prop where
  ewmaSamples : x.ewmaSamples = seen.length
  updateCount : x.nlms.updateCount = seen.length
  rlsCount : x.rls.updateCount = seen.length
  recent : x.nlms.recent = Deque.lastN DualTimescaleNlms.recentMax seen
  ewmaE2e : Averages seen Cfg.ewmaPriorMs x.ewmaE2e
  avgLatency : Averages seen 0 x.nlms.avgLatency
  rlsLatency : Averages seen 0 x.rls.avgLatency

theorem learned_newWorker (cfg : Cfg K) (tier : String) (total : K) (free : Option K) :
    Learned [] (newWorker cfg tier total free) where
  ewmaSamples := rfl
  updateCount := rfl
  rlsCount := rfl
  recent := rfl
  ewmaE2e := ⟨fun _ => rfl, fun h => absurd rfl h⟩
  avgLatency := ⟨fun _ => rfl, fun h => absurd rfl h⟩
  rlsLatency := ⟨fun _ => rfl, fun h => absurd rfl h⟩

theorem Learned.onNlms {seen : List K} {x : Worker K} (h : Learned seen x)
    {f : DualTimescaleNlms K → DualTimescaleNlms K} (hf : SameLessons x.nlms (f x.nlms)) : Learned seen (x.onNlms f) where
  ewmaSamples := h.ewmaSamples
  updateCount := hf.updateCount.trans h.updateCount
  rlsCount := h.rlsCount
  recent := hf.recent.trans h.recent
  ewmaE2e := h.ewmaE2e
  avgLatency := by
    show Averages seen 0 (f x.nlms).avgLatency
    rw [hf.avgLatency]
    exact h.avgLatency
  rlsLatency := h.rlsLatency

/-- The parameters are learned beside the averages. -/
theorem sameLessons_learn (m : DualTimescaleNlms K) (actualMs : K) (tokens : Int) (inflight : Nat) :
    SameLessons m (m.learn actualMs tokens inflight) := by
  have hclip : ∀ (pred err : K), SameLessons m (m.countClip pred err inflight) := by
    intro pred err
    unfold DualTimescaleNlms.countClip
    split
    · exact ⟨rfl, rfl, rfl⟩
    · split
      · exact ⟨rfl, rfl, rfl⟩
      · split <;> exact ⟨rfl, rfl, rfl⟩
  unfold DualTimescaleNlms.learn
  split
  · exact ⟨rfl, rfl, rfl⟩
  · exact (hclip _ _).trans ⟨rfl, rfl, rfl⟩

variable [IsStrictOrderedRing K]

/-- The moving average starts with the first observation, and moves a tenth of the way to each later one. -/
theorem averages_movingLatency {seen : List K} {avg : K} (h : Averages seen 0 avg) (e2eMs : K) :
    Averages (seen ++ [e2eMs]) 0 (movingLatency avg e2eMs) := by
  refine ⟨fun hnil => (by simp at hnil), fun _ => ?_⟩
  unfold movingLatency
  split
  · exact Amid.last seen e2eMs
  · rename_i hpos
    by_cases hseen : seen = []
    · exact absurd (h.1 hseen).le hpos
    · have hmean := (h.2 hseen).mean (a := 1 / 10) (by norm_num) (by norm_num) e2eMs
      have hsum : 1 / 10 * e2eMs + (1 - 1 / 10) * avg = 9 / 10 * avg + 1 / 10 * e2eMs := by ring
      rwa [hsum] at hmean

/-- The record learns from a success what the list of observations does. -/
theorem Learned.learn {seen : List K} {x : Worker K} (h : Learned seen x) (e2eMs : K) (tokens : Int) (inflight : Nat) :
    Learned (seen ++ [e2eMs]) (x.learn e2eMs tokens inflight) := by
  have htally : SameLessons (x.nlms.tally e2eMs tokens) ((x.nlms.tally e2eMs tokens).learn e2eMs tokens inflight) :=
    sameLessons_learn _ e2eMs tokens inflight
  refine ⟨?_, ?_, ?_, ?_, ?_, ?_, ?_⟩
  · show x.ewmaSamples + 1 = _
    simp [h.ewmaSamples]
  · show ((x.nlms.tally e2eMs tokens).learn e2eMs tokens inflight).updateCount = _
    rw [htally.updateCount]
    show x.nlms.updateCount + 1 = _
    simp [h.updateCount]
  · show x.rls.updateCount + 1 = _
    simp [h.rlsCount]
  · show Deque.push _ ((x.nlms.tally e2eMs tokens).learn e2eMs tokens inflight).recent e2eMs = _
    rw [htally.recent]
    show Deque.push _ x.nlms.recent e2eMs = _
    rw [h.recent]
    exact Deque.push_lastN _ seen e2eMs
  · refine ⟨fun hnil => (by simp at hnil), fun _ => ?_⟩
    show Amid _ (if x.ewmaSamples = 0 then e2eMs else 1 / 5 * e2eMs + (1 - 1 / 5) * x.ewmaE2e)
    split
    · exact Amid.last seen e2eMs
    · rename_i hsome
      rw [h.ewmaSamples, List.length_eq_zero_iff] at hsome
      exact (h.ewmaE2e.2 hsome).mean (by norm_num) (by norm_num) e2eMs
  · show Averages _ 0 (movingLatency ((x.nlms.tally e2eMs tokens).learn e2eMs tokens inflight).avgLatency e2eMs)
    rw [htally.avgLatency]
    exact averages_movingLatency h.avgLatency e2eMs
  · exact averages_movingLatency h.rlsLatency e2eMs

/-! ## Runs -/

/-- The record of the worker, when it is registered, has learned what was seen of it. -/
def View.Learned (v : View K) (seen : List K) : Prop := ∀ x ∈ v.worker, Scheduler.Learned seen x

theorem Learned.finish {seen : List K} {x : Worker K} (h : Learned seen x) (e2eMs : K) (tokens : Int) :
    Learned (seen ++ [e2eMs]) (x.finish e2eMs tokens true) := by
  have hpopped := h.onNlms (f := fun m => { m with inflightLog := m.inflightLog.tail }) ⟨rfl, rfl, rfl⟩
  exact (hpopped.learn e2eMs tokens _).onNlms (booked_free _).sameLessons

/-- Whatever happens to the worker, its record learns as much as was observed. -/
theorem View.Learned.exec (cfg : Cfg K) {v : View K} {seen : List K} (h : v.Learned seen) (ev : Happening K) :
    (ev.exec cfg v).Learned (ev.observe seen) := by
  intro x' hx'
  rcases record_exec hx' with ⟨tier, total, free, rfl, rfl⟩ | ⟨x, hx, ⟨e2eMs, tokens, rfl, rfl⟩ | ⟨hquiet, f, hf, rfl⟩⟩
  · exact learned_newWorker cfg tier total free
  · exact (h x hx).finish e2eMs tokens
  · rw [observe_quiet hquiet]
    exact (h x hx).onNlms hf.sameLessons

theorem View.Learned.play (cfg : Cfg K) : ∀ {evs : List (Happening K)} {v : View K} {seen : List K}, v.Learned seen →
    (Trace.play (Happening.exec cfg) v evs).Learned (Trace.play Happening.observe seen evs)
  | [], _, _, h => h
  | ev :: evs, v, seen, h => by
    show (Trace.play _ (ev.exec cfg v) evs).Learned (Trace.play _ (ev.observe seen) evs)
    exact View.Learned.play cfg (h.exec cfg ev)

variable [FloorRing K]

/-- After any run from a new scheduler, each registered worker has counted exactly its own successful requests since
it was registered, keeps the last of their latencies, and every average that routing reads lies amid them. -/
theorem learned_of_own_requests (cfg : Cfg K) (ms : List (Move K)) {w : String} {x : Worker K}
    (h : Dict.get? (played cfg .init ms).predictors w = some x) : Learned (observed cfg w .init ms) x := by
  have hplay : (Trace.play (Happening.exec cfg) (State.init.view w) (happenings cfg w .init ms)).Learned
      (observed cfg w .init ms) := View.Learned.play cfg fun x hx => by cases hx
  rw [← view_played] at hplay
  exact hplay x h

end Learned

/-! ## Examples -/

theorem learned_of_own_requests_gpu0 : ∃ x,
    Dict.get? (played { defaultCfg with strategy := .roundRobin } .init fleetRun).predictors "gpu0" = some x ∧
      Learned [700] x := by
  have hsome : (Dict.get? (played { defaultCfg with strategy := .roundRobin } .init fleetRun).predictors "gpu0").isSome := rfl
  obtain ⟨x, hx⟩ := Option.isSome_iff_exists.1 hsome
  have hobserved : observed { defaultCfg with strategy := .roundRobin } "gpu0" .init fleetRun = [700] := rfl
  have hlearned := learned_of_own_requests _ fleetRun hx
  rw [hobserved] at hlearned
  exact ⟨x, hx, hlearned⟩

end Dio.Scheduler
