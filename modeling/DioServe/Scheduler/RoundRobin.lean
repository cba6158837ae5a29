/-
Round-robin over differently restricted requests (`scheduler.py`, `pick`). All of them move one index,
each modulo the number of its own workers, so a request for other models can hold the index of an
allow-list in place. Where none disturbs it, the workers of each allow-list are served in turn.
-/
import DioServe.Data.Rotation
import DioServe.Scheduler.Traffic

namespace Dio.Scheduler

open Data Data.Rotation Effect

variable {K : Type}

/-! ## Requests served -/

/-- The scheduler; for each allow-list, how many of its requests each worker served, and the index that its last one
left. -/
structure Turns (K : Type) where
  sched : State K
  served : Option (List String) → String → Nat
  left : Option (List String) → Option Nat

/-- Nothing has been served. -/
def Turns.start (s : State K) : Turns K := ⟨s, fun _ _ => 0, fun _ => none⟩

/-- Of any two healthy workers of an allow-list, each served as many of its requests as the other, or one more. -/
def Fair (l : Turns K) : Prop :=
  ∀ allowed, ∀ w ∈ eligible l.sched allowed, ∀ v ∈ eligible l.sched allowed, l.served allowed w ≤ l.served allowed v + 1

/-- The index is where the last request with this allow-list left it, or all its workers are level. -/
def Undisturbed (l : Turns K) (a : PickArgs) : Prop :=
  (∀ i, l.left a.allowedBackends = some i → l.sched.rrIndex % (eligible l.sched a.allowedBackends).length = i) ∨
    ∀ w ∈ eligible l.sched a.allowedBackends, ∀ v ∈ eligible l.sched a.allowedBackends,
      l.served a.allowedBackends w = l.served a.allowedBackends v

section Runs

variable [Field K] [LinearOrder K] [FloorRing K] (cfg : Cfg K)

/-- A pick, counted. -/
def Turns.serve (a : PickArgs) (l : Turns K) : Turns K :=
  let r := pick cfg l.sched a
  match r.1 with
  | .ok (w, _) =>
    let served := l.served a.allowedBackends
    { sched := r.2
      served := Function.update l.served a.allowedBackends (Function.update served w (served w + 1))
      left := Function.update l.left a.allowedBackends (some r.2.rrIndex) }
  | .error _ => { l with sched := r.2 }

/-- Every allow-list with a request served has its workers in turn, from the one after the last. -/
structure InTurns (s : State K) (l : Turns K) : Prop where
  healthy : l.sched.healthyIds = s.healthyIds
  fresh : ∀ allowed, l.left allowed = none → ∀ w, l.served allowed w = 0
  turn : ∀ allowed i, l.left allowed = some i → InTurn ((eligible s allowed).rotate (i + 1)) (l.served allowed)

variable {cfg}

omit [Field K] [LinearOrder K] [FloorRing K] in
theorem InTurns.fair {s : State K} {l : Turns K} (h : InTurns s l) : Fair l := by
  intro allowed w hw v hv
  rw [eligible_congr h.healthy] at hw hv
  cases hl : l.left allowed with
  | none =>
    rw [h.fresh allowed hl w]
    omega
  | some i => exact (h.turn allowed i hl).close w (List.mem_rotate.2 hw) v (List.mem_rotate.2 hv)

/-- A pick changes nobody's health. -/
theorem healthyIds_pick (s : State K) (a : PickArgs) : (pick cfg s a).2.healthyIds = s.healthyIds := by
  have hids : ∀ {s₁ s₂ : State K}, s₁.predictors = s₂.predictors → s₁.healthyIds = s₂.healthyIds := by
    intro s₁ s₂ h
    unfold State.healthyIds
    rw [h]
  have hmark : ∀ m : DualTimescaleNlms K, m.markAdmitted.healthy = m.healthy := by
    intro m
    unfold DualTimescaleNlms.markAdmitted
    rfl
  have h := pick_effect cfg s a
  unfold PickEffect at h
  split at h
  · exact (hids h).trans (healthyIds_onNlms hmark s _)
  · exact hids h

/-- Round-robin serves the worker at the index, moved on by one. -/
theorem pick_roundRobin (hs : cfg.strategy = .roundRobin) {s : State K} {a : PickArgs} {ids : List String}
    (hids : eligible s a.allowedBackends = ids) (hne : ids ≠ []) :
    ∃ d, (pick cfg s a).1 = .ok (ids.getD ((s.rrIndex + 1) % ids.length) "", d) ∧
      (pick cfg s a).2.rrIndex = (s.rrIndex + 1) % ids.length := by
  unfold pick
  dsimp only
  rw [hids, if_neg hne, hs]
  exact ⟨_, rfl, rfl⟩

theorem pick_nobody {s : State K} {a : PickArgs} (hids : eligible s a.allowedBackends = []) :
    ∃ message, pick cfg s a = rejectNoWorker cfg s message := by
  unfold pick
  dsimp only
  exact ⟨_, if_pos hids⟩

theorem Turns.serve_of_ok {l : Turns K} {a : PickArgs} {w : String} {d : RoutingDecision K}
    (h : (pick cfg l.sched a).1 = .ok (w, d)) : Turns.serve cfg a l =
      { sched := (pick cfg l.sched a).2
        served := Function.update l.served a.allowedBackends
          (Function.update (l.served a.allowedBackends) w (l.served a.allowedBackends w + 1))
        left := Function.update l.left a.allowedBackends (some (pick cfg l.sched a).2.rrIndex) } := by
  unfold Turns.serve
  dsimp only
  rw [h]

omit [Field K] [LinearOrder K] [FloorRing K] in
/-- An undisturbed index stands at the next worker in turn. -/
theorem InTurns.next {s : State K} {l : Turns K} (h : InTurns s l) {a : PickArgs} (hok : Undisturbed l a) :
    InTurn ((eligible s a.allowedBackends).rotate
      ((l.sched.rrIndex + 1) % (eligible s a.allowedBackends).length)) (l.served a.allowedBackends) := by
  have hids : eligible l.sched a.allowedBackends = eligible s a.allowedBackends := eligible_congr h.healthy _
  unfold Undisturbed at hok
  rw [hids] at hok
  rw [List.rotate_mod]
  rcases hok with hleft | hlevel
  · cases hl : l.left a.allowedBackends with
    | none =>
      apply inTurn_of_equal
      intro w _ v _
      rw [h.fresh _ hl w, h.fresh _ hl v]
    | some i =>
      have hturn := h.turn _ i hl
      rwa [← hleft i hl, ← List.rotate_rotate, List.rotate_mod, List.rotate_rotate] at hturn
  · apply inTurn_of_equal
    intro w hw v hv
    exact hlevel w (List.mem_rotate.1 hw) v (List.mem_rotate.1 hv)

/-- A request that finds its index undisturbed keeps every allow-list's workers in turn. -/
theorem InTurns.serve (hs : cfg.strategy = .roundRobin) {s : State K} (hn : (Dict.keys s.predictors).Nodup) {l : Turns K}
    (h : InTurns s l) {a : PickArgs} (hok : Undisturbed l a) : InTurns s (Turns.serve cfg a l) := by
  have hhealthy : (pick cfg l.sched a).2.healthyIds = s.healthyIds := (healthyIds_pick l.sched a).trans h.healthy
  have hids : eligible l.sched a.allowedBackends = eligible s a.allowedBackends := eligible_congr h.healthy _
  by_cases hne : eligible s a.allowedBackends = []
  · -- nobody to serve it: nothing is counted
    obtain ⟨message, hp⟩ : ∃ message, pick cfg l.sched a = rejectNoWorker cfg l.sched message := pick_nobody (hids.trans hne)
    unfold Turns.serve
    rw [hp]
    exact ⟨h.healthy, h.fresh, h.turn⟩
  · obtain ⟨d, hserved, hindex⟩ := pick_roundRobin hs hids hne
    have hlt : (l.sched.rrIndex + 1) % (eligible s a.allowedBackends).length < (eligible s a.allowedBackends).length :=
      Nat.mod_lt _ (List.length_pos_iff.2 hne)
    have hturn := (h.next hok).serve_at (d := "") hlt (nodup_eligible hn _)
    rw [Turns.serve_of_ok hserved, hindex]
    constructor
    · exact hhealthy
    · intro allowed hl w
      dsimp only at hl ⊢
      by_cases ha : allowed = a.allowedBackends
      · rw [ha, Function.update_self] at hl
        cases hl
      · rw [Function.update_of_ne ha] at hl ⊢
        exact h.fresh allowed hl w
    · intro allowed i hl
      dsimp only at hl ⊢
      by_cases ha : allowed = a.allowedBackends
      · rw [ha, Function.update_self] at hl ⊢
        cases hl
        exact hturn
      · rw [Function.update_of_ne ha] at hl ⊢
        exact h.turn allowed i hl

/-- In every run of round-robin picks over fixed healthy workers in which each pick finds the index where the last one
with its allow-list left it, or its workers level, every allow-list is served fairly throughout. -/
theorem round_robin_fair (hs : cfg.strategy = .roundRobin) {s : State K} (hn : (Dict.keys s.predictors).Nodup)
    (as : List PickArgs) (hok : Trace.Allowed (Turns.serve cfg) Undisturbed (.start s) as) :
    Trace.Always (Turns.serve cfg) Fair (.start s) as := by
  have h0 : InTurns s (.start s) := ⟨rfl, fun _ _ _ => rfl, fun _ _ hl => by cases hl⟩
  exact (Trace.always_of_invariant (fun l a h ha => h.serve hs hn ha) h0 hok).mono fun l h => h.fair

end Runs

def roundRobinCfg : Cfg ℚ := { defaultCfg with strategy := .roundRobin }

def threeWorkers : State ℚ :=
  (fleet roundRobinCfg [{ oneWorker with id := "a" }, { oneWorker with id := "b" }, { oneWorker with id := "c" }]).sched

theorem round_robin_fair_unrestricted :
    Trace.Always (Turns.serve roundRobinCfg) Fair (.start threeWorkers) [{ prompt := "x" }, { prompt := "y" }] := by
  apply round_robin_fair rfl (nodup_keys_fleet roundRobinCfg _)
  refine ⟨.inl ?_, .inl ?_, trivial⟩
  · rintro i ⟨⟩
  · rintro i ⟨⟩
    decide +kernel

/-- Requests for `c` alone in between take every request for `a` or `b` to `b`. -/
theorem alternating_starves : ¬ Trace.Always (Turns.serve roundRobinCfg) Fair (.start threeWorkers)
    [{ prompt := "x", allowedBackends := some ["a", "b"] }, { prompt := "x", allowedBackends := some ["c"] },
      { prompt := "x", allowedBackends := some ["a", "b"] }] := by
  intro h
  have hle := h.last (some ["a", "b"]) "b" (by decide +kernel) "a" (by decide +kernel)
  revert hle
  decide +kernel

end Dio.Scheduler
