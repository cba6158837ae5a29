/-
Session affinity (`scheduler.py`, `pick` and `_score`): under the strategies that rank by cost,
`prefix_cache` is a least-recently-used cache of the admitted prompt keys, whatever else happens
between the admissions.
-/
import DioServe.Data.Lru
import DioServe.Scheduler.Conservation

namespace Dio.Scheduler

open Data Effect

variable {K : Type}

/-! ## The admitted prompt keys -/

/-- The scheduler with its requests, the prompt keys admitted since the last reset of the statistics,
each with its worker (newest first), and how many of them the cache did not have. -/
structure Visits (K : Type) where
  ledger : Ledger K
  seen : List (Nat × String)
  inserted : Nat

/-- `prefix_cache` and its eviction count. -/
def State.memory (s : State K) : Dict Nat String × Nat := (s.prefixCache, s.affinityEvictions)

/-- A report about a worker leaves the cache alone. -/
theorem Reports.memory {s s' : State K} (h : Reports s s') : s'.memory = s.memory := by
  rw [h.rest]
  rfl

variable [Field K]

def Visits.init : Visits K := ⟨.init, [], 0⟩

variable [LinearOrder K]

variable [FloorRing K] (cfg : Cfg K)

/-- What a pick adds to the admitted keys. -/
def Visits.noted (v : Visits K) (a : PickArgs) : List (Nat × String) × Nat :=
  match (pick cfg v.ledger.sched a).1 with
  | .ok (w, _) => ((cfg.prefixHash a.prompt, w) :: v.seen,
      v.inserted + if Dict.contains v.ledger.sched.prefixCache (cfg.prefixHash a.prompt) then 0 else 1)
  | .error _ => (v.seen, v.inserted)

def Move.visit (m : Move K) (v : Visits K) : Visits K :=
  match m with
  | .pick a => ⟨m.exec cfg v.ledger, (v.noted cfg a).1, (v.noted cfg a).2⟩
  | .resetStats => ⟨m.exec cfg v.ledger, [], 0⟩
  | _ => ⟨m.exec cfg v.ledger, v.seen, v.inserted⟩

variable {cfg}

/-- The cache is that of the admitted keys, and every inserted entry is still there or evicted. -/
structure Remembers (cfg : Cfg K) (seen : List (Nat × String)) (inserted : Nat) (memory : Dict Nat String × Nat) : Prop where
  cache : memory.1 = Lru.cache cfg.affinityMax seen
  evictions : memory.2 + memory.1.length = inserted

omit [Field K] [LinearOrder K] [FloorRing K] in
theorem affinityMax_pos (cfg : Cfg K) : 0 < cfg.affinityMax := Nat.lt_of_lt_of_le (by decide) (Nat.le_max_left 16 _)

omit [Field K] [LinearOrder K] [FloorRing K] in
theorem Remembers.nil (cfg : Cfg K) : Remembers cfg [] 0 ([], 0) := ⟨(Lru.cache_nil _).symm, rfl⟩

omit [Field K] [LinearOrder K] [FloorRing K] in
theorem Remembers.remember {s : State K} {seen : List (Nat × String)} {inserted : Nat} (h : Remembers cfg seen inserted s.memory)
    (pkey : Nat) (w : String) : Remembers cfg ((pkey, w) :: seen)
      (inserted + if Dict.contains s.prefixCache pkey then 0 else 1) (remember cfg s pkey w).memory := by
  have hcache : s.prefixCache = Lru.cache cfg.affinityMax seen := h.cache
  have hev : s.affinityEvictions + s.prefixCache.length = inserted := h.evictions
  have hlen := Lru.length_setLast (v := w) (show (Dict.keys s.prefixCache).Nodup by rw [hcache]; exact Lru.nodup_keys_cache ..) pkey
  constructor
  · show Lru.touch cfg.affinityMax s.prefixCache pkey w = _
    rw [hcache, Lru.touch_cache (affinityMax_pos cfg)]
  -- what the cache drops is what it counts as evicted
  · show s.affinityEvictions + ((Dict.setLast s.prefixCache pkey w).length - cfg.affinityMax) +
      ((Dict.setLast s.prefixCache pkey w).drop ((Dict.setLast s.prefixCache pkey w).length - cfg.affinityMax)).length = _
    rw [List.length_drop]
    omega

theorem Remembers.visit (hcost : cfg.strategy.byCost = true) {v : Visits K}
    (h : Remembers cfg v.seen v.inserted v.ledger.sched.memory) (m : Move K) :
    Remembers cfg (m.visit cfg v).seen (m.visit cfg v).inserted (m.visit cfg v).ledger.sched.memory := by
  cases m with
  | pick a =>
    show Remembers cfg (v.noted cfg a).1 (v.noted cfg a).2 (pick cfg v.ledger.sched a).2.memory
    unfold Visits.noted
    have hc := pick_cases cfg v.ledger.sched a
    generalize pick cfg v.ledger.sched a = r at hc ⊢
    cases hc with
    | nobody _ => exact h
    | shed _ _ _ _ => exact h
    | byCost d _ _ _ _ _ => exact h.remember _ _
    | direct d _ _ hplain _ => rw [hcost] at hplain; cases hplain
  | feedback t e n ok => cases ok <;> exact h
  | setHealthy w ok =>
    show Remembers cfg v.seen v.inserted (setHealthy v.ledger.sched w ok).memory
    rw [(reports_setHealthy _ _ _).memory]; exact h
  | setEngineMetrics w s =>
    show Remembers cfg v.seen v.inserted (setEngineMetrics v.ledger.sched w s).memory
    rw [(reports_setEngineMetrics _ _ _).memory]; exact h
  | noteFailure w n =>
    show Remembers cfg v.seen v.inserted (noteFailure v.ledger.sched w n).2.memory
    rw [(reports_noteFailure _ _ _).memory]; exact h
  | resetStats => exact .nil cfg
  | register r => exact h
  | unregister w => exact h
  | release t => exact h
  | setVram w f => exact h
  | noteSuccess w => exact h

/-! ## The cache is exact -/

/-- `prefix_cache` holds the keys admitted last, each with the worker of its latest admission, in the
order of these; a decision is a hit exactly when its key was there with the chosen worker. -/
structure ExactLru (cfg : Cfg K) (v : Visits K) : Prop where
  cache : v.ledger.sched.prefixCache = Lru.cache cfg.affinityMax v.seen
  size : v.ledger.sched.prefixCache.length = min cfg.affinityMax (Dict.keys v.seen).dedup.length
  worker : ∀ k w, Dict.get? v.ledger.sched.prefixCache k = some w → Dict.get? v.seen k = some w
  evictions : v.ledger.sched.affinityEvictions + v.ledger.sched.prefixCache.length = v.inserted
  rejected : ∀ a e, (pick cfg v.ledger.sched a).1 = .error e →
    (pick cfg v.ledger.sched a).2.prefixCache = v.ledger.sched.prefixCache
  hit : ∀ a w d, (pick cfg v.ledger.sched a).1 = .ok (w, d) →
    (d.affinityHit = true ↔ Dict.get? v.ledger.sched.prefixCache (cfg.prefixHash a.prompt) = some w)

theorem pick_affinityHit (hcost : cfg.strategy.byCost = true) (hon : cfg.ablation.disableCache = false) {s : State K}
    {a : PickArgs} {w : String} {d : RoutingDecision K} (h : (pick cfg s a).1 = .ok (w, d)) :
    d.affinityHit = true ↔ Dict.get? s.prefixCache (cfg.prefixHash a.prompt) = some w := by
  have hc := pick_cases cfg s a
  generalize pick cfg s a = r at hc h
  cases hc with
  | nobody _ => cases h
  | shed _ _ _ _ => cases h
  | byCost d _ _ _ hhit _ =>
    cases h
    rw [hhit, affinityHit, hon, Bool.not_false, Bool.true_and, decide_eq_true_eq]
  | direct d _ _ hplain _ => rw [hcost] at hplain; cases hplain

theorem pick_rejected_cache {s : State K} {a : PickArgs} {e : AdmissionError} (h : (pick cfg s a).1 = .error e) :
    (pick cfg s a).2.prefixCache = s.prefixCache := by
  have hc := pick_cases cfg s a
  generalize pick cfg s a = r at hc h
  cases hc with
  | nobody _ => rfl
  | shed _ _ _ _ => rfl
  | byCost _ _ _ _ _ _ => cases h
  | direct _ _ _ _ _ => cases h

/-- Under every run, the affinity cache is the least-recently-used cache of the admitted keys. -/
theorem affinity_exact_lru (hcost : cfg.strategy.byCost = true) (hon : cfg.ablation.disableCache = false)
    (ms : List (Move K)) : Trace.Always (Move.visit cfg) (ExactLru cfg) .init ms := by
  have hinv : Trace.Always (Move.visit cfg)
      (fun v : Visits K => Remembers cfg v.seen v.inserted v.ledger.sched.memory) .init ms := by
    refine Trace.always_of_invariant (fun v m h (_ : True) => h.visit hcost m) (.nil cfg) ?_
    exact Trace.allowed_iff_forall.2 fun _ _ => trivial
  refine hinv.mono fun v h => ?_
  have hcache : v.ledger.sched.prefixCache = Lru.cache cfg.affinityMax v.seen := h.cache
  refine ⟨hcache, ?_, fun k w hw => ?_, h.evictions, fun a e he => pick_rejected_cache he,
    fun a w d hd => pick_affinityHit hcost hon hd⟩
  · rw [hcache, Lru.length_cache]
  · rw [hcache] at hw
    exact Lru.get?_of_cache hw

theorem affinity_exact_lru_slow : Trace.Always (Move.visit defaultCfg) (ExactLru defaultCfg) .init slowStart :=
  affinity_exact_lru rfl rfl slowStart

end Dio.Scheduler
