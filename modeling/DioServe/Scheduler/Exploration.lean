/-
The exploration of the EWMA strategy (`scheduler.py`, `pick`). A worker counts as visited once a
request of its succeeded; one whose requests fail or are released stays unexplored and goes before
all others. Where no request of an unexplored worker ends so, exploration ends with a visit each.
-/
import DioServe.Scheduler.Traffic

namespace Dio.Scheduler

open Data Effect

variable {K : Type}

/-! ## Visited workers -/

/-- Scheduler and desk, and the workers with an admitted request closed since they were registered. -/
structure Tour (K : Type) where
  ledger : Ledger K
  closed : String → Bool

/-- Whether a worker has had a request closed, after a move. -/
def Move.markClosed (w : String) (closed : Bool) : Move K → Bool
  | .register r => if r.id = w then false else closed
  | .feedback t _ _ _ | .release t => if t.worker = w then true else closed
  | .unregister _ | .pick _ | .setHealthy _ _ | .setVram _ _ | .setEngineMetrics _ _ | .noteFailure _ _ | .noteSuccess _
  | .resetStats => closed

/-- The samples of a registered worker. -/
def State.samples (s : State K) (w : String) : Option Nat := (Dict.get? s.predictors w).map (·.ewmaSamples)

/-- No request of an unexplored worker fails or is released. -/
def Sampled (l : Tour K) : Move K → Prop
  | .feedback t _ _ false | .release t => l.ledger.sched.samples t.worker ≠ some 0
  | _ => True

/-- Every registered worker with a request closed has a sample. -/
def Explored (l : Tour K) : Prop := ∀ w, l.closed w = true → l.ledger.sched.samples w ≠ some 0

theorem samples_congr {s s' : State K} (h : s'.predictors = s.predictors) : s'.samples = s.samples := by
  funext w
  rw [State.samples, State.samples, h]

theorem samples_onNlms (f : DualTimescaleNlms K → DualTimescaleNlms K) (s : State K) (w : String) :
    (s.onNlms w f).samples = s.samples := by
  funext v
  rw [State.samples, State.get?_onNlms, State.samples]
  split
  · rw [Option.map_map]
    rfl
  · rfl

theorem samples_setHealthy (s : State K) (w : String) (healthy : Bool) : (setHealthy s w healthy).samples = s.samples := by
  rw [samples_congr (predictors_setHealthy s w healthy)]
  exact samples_onNlms _ s w

theorem samples_noteFailure (s : State K) (w : String) (n : Nat) : (noteFailure s w n).2.samples = s.samples := by
  rcases predictors_noteFailure s w n with h | h
  · rw [samples_congr h]
    exact samples_onNlms _ s w
  · exact samples_congr h

section Runs

variable [Field K]

theorem samples_register (cfg : Cfg K) (s : State K) (r : Registration K) (w : String) :
    (register cfg s r.id r.tier r.totalVramMb r.freeVramMb).samples w = if r.id = w then some 0 else s.samples w := by
  show (Dict.get? (Dict.set s.predictors r.id _) w).map _ = _
  rw [Dict.get?_set]
  split <;> rfl

omit [Field K] in
theorem samples_unregister (s : State K) (v w : String) : (unregister s v).samples w = if v = w then none else s.samples w := by
  show (Dict.get? (Dict.erase s.predictors v) w).map _ = _
  split
  · rename_i h
    rw [← h, Dict.get?_erase_self]
    rfl
  · rename_i h
    rw [Dict.get?_erase_ne h]
    rfl

variable [LinearOrder K]

theorem samples_setEngineMetrics (s : State K) (w : String) (snap : EngineSnapshot K) :
    (setEngineMetrics s w snap).samples = s.samples := by
  rcases predictors_setEngineMetrics s w snap with ⟨f, -, h⟩ | h
  · rw [samples_congr h]
    exact samples_onNlms f s w
  · exact samples_congr h

theorem samples_completed (cfg : Cfg K) (s : State K) (v : String) (e2eMs : K) (tokens : Int) (inflight : Nat) (w : String) :
    (completed cfg s v e2eMs tokens inflight).samples w = if v = w then (s.samples w).map (· + 1) else s.samples w := by
  show (Dict.get? (Dict.modify s.predictors v fun x => x.learn e2eMs tokens inflight) w).map _ = _
  rw [Dict.get?_modify]
  by_cases h : v = w
  · rw [if_pos h.symm, if_pos h, State.samples, Option.map_map, Option.map_map]
    rfl
  · rw [if_neg (Ne.symm h), if_neg h]
    rfl

/-- A success adds a sample, a failure none. -/
theorem samples_feedback (cfg : Cfg K) (s : State K) (v : String) (e2eMs : K) (tokens : Int) (success : Bool) (w : String) :
    (feedback cfg s v e2eMs tokens success).samples w =
      if v = w ∧ success = true then (s.samples w).map (· + 1) else s.samples w := by
  have hread := samples_onNlms (fun m => { m with inflightLog := m.inflightLog.tail }) s v
  unfold feedback
  dsimp only
  rw [samples_onNlms]
  cases success with
  | false =>
    simp only [Bool.false_eq_true, if_false, and_false]
    exact congrFun hread w
  | true =>
    simp only [if_true, and_true]
    rw [samples_completed, hread]

variable [FloorRing K] (cfg : Cfg K)

def Move.explore (m : Move K) (l : Tour K) : Tour K := ⟨m.exec cfg l.ledger, fun w => m.markClosed w (l.closed w)⟩

/-- A new scheduler. -/
def Tour.init : Tour K := ⟨.init, fun _ => false⟩

variable {cfg}

theorem samples_pick (s : State K) (a : PickArgs) : (pick cfg s a).2.samples = s.samples := by
  have h := pick_effect cfg s a
  unfold PickEffect at h
  split at h
  · exact (samples_congr h).trans (samples_onNlms _ s _)
  · exact samples_congr h

/-- A request of an explored worker may end in any way, one of an unexplored worker in success. -/
theorem Explored.explore {l : Tour K} (h : Explored l) {m : Move K} (hok : Sampled l m) : Explored (m.explore cfg l) := by
  have hkeep : ∀ {s' : State K} {w : String}, s'.samples = l.ledger.sched.samples → l.closed w = true → s'.samples w ≠ some 0 := by
    intro s' w hs hw
    rw [hs]
    exact h w hw
  intro w hw
  cases m with
  | register r =>
    show (register cfg l.ledger.sched r.id r.tier r.totalVramMb r.freeVramMb).samples w ≠ some 0
    have hw : (if r.id = w then false else l.closed w) = true := hw
    rw [samples_register]
    split at hw
    · cases hw
    · rename_i hne
      rw [if_neg hne]
      exact h w hw
  | unregister v =>
    show (unregister l.ledger.sched v).samples w ≠ some 0
    rw [samples_unregister]
    split
    · simp
    · exact h w hw
  | pick a => exact hkeep (samples_pick l.ledger.sched a) hw
  | feedback t e2eMs tokens success =>
    show (feedback cfg l.ledger.sched t.worker e2eMs tokens success).samples w ≠ some 0
    have hw : (if t.worker = w then true else l.closed w) = true := hw
    rw [samples_feedback]
    by_cases ht : t.worker = w
    · cases success with
      | false =>
        rw [if_neg (by simp), ← ht]
        exact hok
      | true =>
        rw [if_pos ⟨ht, rfl⟩]
        cases l.ledger.sched.samples w <;> simp
    · rw [if_neg ht] at hw
      rw [if_neg fun hand => ht hand.1]
      exact h w hw
  | release t =>
    show (release l.ledger.sched t.worker).samples w ≠ some 0
    have hw : (if t.worker = w then true else l.closed w) = true := hw
    have hsame : (release l.ledger.sched t.worker).samples = l.ledger.sched.samples := samples_onNlms _ _ _
    rw [hsame]
    by_cases ht : t.worker = w
    · rw [← ht]
      exact hok
    · rw [if_neg ht] at hw
      exact h w hw
  | setHealthy v healthy => exact hkeep (samples_setHealthy l.ledger.sched v healthy) hw
  | setVram v free => exact hkeep (samples_onNlms (fun m => { m with freeVramMb := free }) l.ledger.sched v) hw
  | setEngineMetrics v snap => exact hkeep (samples_setEngineMetrics l.ledger.sched v snap) hw
  | noteFailure v n => exact hkeep (samples_noteFailure l.ledger.sched v n) hw
  | noteSuccess v => exact h w hw
  | resetStats => exact h w hw

/-! ## Exploitation -/

/-- What the EWMA strategy minimises. -/
def ewmaCost (cfg : Cfg K) (s : State K) (w : String) : K :=
  ((Dict.get? s.predictors w).map (·.ewmaE2e)).getD Cfg.ewmaPriorMs * (1 + (pending s w : K) / max 1 cfg.batch)

/-- Once every worker a request may go to has had a request closed, the pick is one with the least cost. -/
def Exploits (cfg : Cfg K) (l : Tour K) : Prop :=
  ∀ a : PickArgs, eligible l.ledger.sched a.allowedBackends ≠ [] →
    (∀ w ∈ eligible l.ledger.sched a.allowedBackends, l.closed w = true) →
    ∃ w d, (pick cfg l.ledger.sched a).1 = .ok (w, d) ∧ w ∈ eligible l.ledger.sched a.allowedBackends ∧
      ∀ v ∈ eligible l.ledger.sched a.allowedBackends, ewmaCost cfg l.ledger.sched w ≤ ewmaCost cfg l.ledger.sched v

theorem ewmaDecision_totalMs (s : State K) (w : String) (tokens : Int) :
    (ewmaDecision cfg s w tokens).totalMs = ewmaCost cfg s w := by
  unfold ewmaDecision ewmaCost
  dsimp only
  ring

/-- With every worker sampled the EWMA strategy picks one with the least cost. -/
theorem pick_ewma (hs : cfg.strategy = .ewma) {s : State K} {a : PickArgs} (hne : eligible s a.allowedBackends ≠ [])
    (hall : ∀ w ∈ eligible s a.allowedBackends, ewmaSamples s w ≠ 0) :
    ∃ w d, (pick cfg s a).1 = .ok (w, d) ∧ w ∈ eligible s a.allowedBackends ∧
      ∀ v ∈ eligible s a.allowedBackends, ewmaCost cfg s w ≤ ewmaCost cfg s v := by
  have hnone : (eligible s a.allowedBackends).filter (fun w => ewmaSamples s w = 0) = [] := by
    rw [List.filter_eq_nil_iff]
    intro w hw
    simpa using hall w hw
  obtain ⟨d, hd⟩ : ∃ d, firstMin (·.totalMs)
      ((eligible s a.allowedBackends).map fun w => ewmaDecision cfg s w a.count) = some d :=
    firstMin_ne_none (fun d : RoutingDecision K => d.totalMs) (by simpa using hne)
  have hpick : pick cfg s a = admitEwma cfg s d := by
    unfold pick
    dsimp only
    rw [if_neg hne, hs]
    show pickEwma cfg s _ a.count = _
    unfold pickEwma
    have hfirst : firstMin (pending s) ([] : List String) = none := rfl
    rw [hnone, hfirst]
    dsimp only
    rw [hd]
  obtain ⟨hmem, hmin⟩ := firstMin_spec hd
  obtain ⟨w, hw, rfl⟩ := List.mem_map.1 hmem
  refine ⟨w, _, by rw [hpick]; rfl, hw, ?_⟩
  intro v hv
  have hle := hmin _ (List.mem_map_of_mem hv)
  rwa [ewmaDecision_totalMs, ewmaDecision_totalMs] at hle

theorem Explored.exploits (hs : cfg.strategy = .ewma) {l : Tour K} (h : Explored l) : Exploits cfg l := by
  intro a hne hclosed
  apply pick_ewma hs hne
  intro w hw hzero
  have hreg : w ∈ Dict.keys l.ledger.sched.predictors := mem_keys_of_healthy (mem_eligible_iff.1 hw).1
  obtain ⟨x, hx⟩ := Dict.exists_get?_of_mem_keys hreg
  apply h w (hclosed w hw)
  unfold ewmaSamples at hzero
  rw [hx] at hzero
  rw [State.samples, hx]
  exact congrArg some hzero

end Runs

def ewmaCfg : Cfg ℚ := { defaultCfg with strategy := .ewma }

/-- Two workers; the one visited first answers, the other fails its request. -/
def oneFails : List (Move ℚ) :=
  [.register oneWorker, .register { oneWorker with id := "gpu1" }, .pick { prompt := "a" }, .pick { prompt := "a" },
    .feedback ⟨0, "gpu0", 1, 1⟩ 100 1 true, .feedback ⟨1, "gpu1", 1, 1⟩ 100 1 false]

end Dio.Scheduler
