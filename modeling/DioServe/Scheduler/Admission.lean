/-
A pick is atomic: under every strategy it books one outcome, an admission changes nothing but the
slot of an eligible worker, and a rejection nothing but its counter. And which strategies the
`strict` mode is a contract for: those that rank by cost.
-/
import DioServe.Scheduler.Traffic

namespace Dio.Scheduler

open Data Effect

variable {K : Type}

/-! ## What a pick may change -/

/-- The counters of decided requests: admitted, shed for the SLO, for memory, for want of a worker. -/
def AdmissionStats.decided (a : AdmissionStats K) : Nat × Nat × Nat × Nat :=
  (a.admitted, a.rejectedSlo, a.rejectedVram, a.rejectedNoWorker)

/-- Exactly one of four counters grows, by one. -/
def OneMore (n n' : Nat × Nat × Nat × Nat) : Prop :=
  n' = (n.1 + 1, n.2.1, n.2.2.1, n.2.2.2) ∨ n' = (n.1, n.2.1 + 1, n.2.2.1, n.2.2.2) ∨
    n' = (n.1, n.2.1, n.2.2.1 + 1, n.2.2.2) ∨ n' = (n.1, n.2.1, n.2.2.1, n.2.2.2 + 1)

/-- The same worker, but for its slot. -/
structure Worker.SameModel (x x' : Worker K) : Prop where
  nlms : x'.nlms = { x.nlms with pending := x'.nlms.pending, inflightLog := x'.nlms.inflightLog }
  rls : x'.rls = x.rls
  ewmaE2e : x'.ewmaE2e = x.ewmaE2e
  ewmaSamples : x'.ewmaSamples = x.ewmaSamples

theorem Worker.SameModel.refl (x : Worker K) : x.SameModel x := ⟨rfl, rfl, rfl, rfl⟩

/-- `w` may be picked, and takes one more request; every other worker and every model stay. -/
structure Admits (s : State K) (a : PickArgs) (w : String) (s' : State K) : Prop where
  healthy : ∃ x, Dict.get? s.predictors w = some x ∧ x.nlms.healthy = true
  allowed : ∀ ids, a.allowedBackends = some ids → w ∈ ids
  keys : Dict.keys s'.predictors = Dict.keys s.predictors
  workers : ∀ v x, Dict.get? s.predictors v = some x → ∃ x', Dict.get? s'.predictors v = some x' ∧ x.SameModel x' ∧
    x'.nlms.pending = if v = w then x.nlms.pending + 1 else x.nlms.pending

/-- The workers, the affinity cache and its statistics, the rotation and the decisions stay. -/
structure Untouched (s s' : State K) : Prop where
  predictors : s'.predictors = s.predictors
  prefixCache : s'.prefixCache = s.prefixCache
  affinityDecisions : s'.affinityDecisions = s.affinityDecisions
  affinityHits : s'.affinityHits = s.affinityHits
  affinityEvictions : s'.affinityEvictions = s.affinityEvictions
  rrIndex : s'.rrIndex = s.rrIndex
  decisionLog : s'.decisionLog = s.decisionLog
  lastDecision : s'.lastDecision = s.lastDecision

theorem sameModel_markAdmitted (x : Worker K) : x.SameModel { x with nlms := x.nlms.markAdmitted } := by
  refine ⟨?_, rfl, rfl, rfl⟩
  simp only [DualTimescaleNlms.markAdmitted]

/-- Taking a slot of a worker that may be picked is all an admission does to the workers. -/
theorem admits_of_slot {s s' : State K} (hn : (Dict.keys s.predictors).Nodup) {a : PickArgs} {w : String}
    (hmem : w ∈ eligible s a.allowedBackends) (hp : s'.predictors = (s.onNlms w .markAdmitted).predictors) : Admits s a w s' := by
  obtain ⟨hh, hal⟩ := mem_eligible_iff.1 hmem
  refine ⟨(mem_healthyIds hn).1 hh, hal, ?_, fun v x hx => ?_⟩
  · rw [hp, State.onNlms_keys]
  · have hget : Dict.get? s'.predictors v =
        if v = w then (Dict.get? s.predictors v).map fun x => { x with nlms := x.nlms.markAdmitted } else Dict.get? s.predictors v := by
      rw [hp, State.get?_onNlms]
    rw [hx] at hget
    by_cases hv : v = w
    · rw [if_pos hv] at hget ⊢
      exact ⟨_, hget, sameModel_markAdmitted x, rfl⟩
    · rw [if_neg hv] at hget ⊢
      exact ⟨_, hget, .refl x, rfl⟩

variable [Field K]

theorem nodup_keys_exec [LinearOrder K] [FloorRing K] {cfg : Cfg K} {l : Ledger K}
    (h : (Dict.keys l.sched.predictors).Nodup) (m : Move K) : (Dict.keys (m.exec cfg l).sched.predictors).Nodup := by
  have keep : ∀ {s' : State K}, Dict.keys s'.predictors = Dict.keys l.sched.predictors →
      (Dict.keys s'.predictors).Nodup := fun he => he ▸ h
  cases m with
  | register r => exact Dict.nodup_keys_set h
  | unregister w => exact h.sublist (List.filter_sublist.map Prod.fst)
  | pick a => exact keep (frame_pick cfg l.sched a).keys
  | feedback t e n ok => exact keep (feedback_keys cfg l.sched t.worker e n ok)
  | release t => exact keep (State.onNlms_keys l.sched t.worker _)
  | setHealthy w ok => exact keep (frame_setHealthy l.sched w ok).keys
  | setVram w f => exact keep (State.onNlms_keys l.sched w _)
  | setEngineMetrics w s => exact keep (frame_setEngineMetrics l.sched w s).keys
  | noteFailure w n => exact keep (frame_noteFailure l.sched w n).keys
  | noteSuccess w => exact h
  | resetStats => exact h

variable [LinearOrder K] [FloorRing K] {cfg : Cfg K}

theorem Ledger.Reached.nodup {ok : Ledger K → Move K → Prop} {l : Ledger K} (h : l.Reached cfg ok) :
    (Dict.keys l.sched.predictors).Nodup :=
  h.invariant (P := fun l => (Dict.keys l.sched.predictors).Nodup) List.nodup_nil fun _ m hl _ _ => nodup_keys_exec hl m

/-! ## Atomicity -/

/-- The request is refused and no worker's count of requests changes. -/
def Refuses (cfg : Cfg K) (s : State K) (a : PickArgs) : Prop :=
  (∃ e, (pick cfg s a).1 = .error e) ∧ ∀ w, pending (pick cfg s a).2 w = pending s w

theorem refuses_of_error {s : State K} {a : PickArgs} {e : AdmissionError} (h : (pick cfg s a).1 = .error e) :
    Refuses cfg s a := by
  refine ⟨⟨e, h⟩, fun w => ?_⟩
  have hp := pick_effect cfg s a
  unfold PickEffect at hp
  rw [h] at hp
  rw [pending, pending, hp]

/-- Without a cost model a request some healthy worker can take is admitted. -/
theorem pick_direct {s : State K} (hplain : cfg.strategy.byCost = false) (hne : s.healthyIds ≠ []) (prompt : String) :
    ∃ r, (pick cfg s { prompt := prompt }).1 = .ok r := by
  unfold pick
  dsimp only
  rw [show eligible s none = s.healthyIds from rfl, if_neg hne]
  cases hs : cfg.strategy with
  | nlms | rls | static => rw [hs] at hplain; cases hplain
  | roundRobin => exact ⟨_, rfl⟩
  | leastLoaded => exact ⟨_, rfl⟩
  | ewma =>
    dsimp only
    unfold pickEwma
    split
    · exact ⟨_, rfl⟩
    · split
      · exact ⟨_, rfl⟩
      · rename_i hnone
        have hmap : ∀ f : String → RoutingDecision K, s.healthyIds.map f ≠ [] := fun f => by simpa using hne
        obtain ⟨d, hd⟩ := firstMin_ne_none (fun d : RoutingDecision K => d.totalMs) (hmap fun w => ewmaDecision cfg s w _)
        rw [hd] at hnone
        cases hnone

/-- The default configuration in strict mode. -/
def strictCfg (strategy : Strategy) : Cfg ℚ := { defaultCfg with strategy := strategy, admissionMode := .strict }

/-- Register a worker and complete eight requests on it in six seconds each. -/
def slowStart : List (Move ℚ) :=
  .register oneWorker :: ((List.range 8).map fun k =>
    [Move.pick { prompt := "hello" }, Move.feedback ⟨k, "gpu0", 1, 1⟩ 6000 1 true]).flatten

end Dio.Scheduler
