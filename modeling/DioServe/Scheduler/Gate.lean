/-
The gate on observed latency: when it is open, when it sheds, and that a one-token request has every
worker as a candidate whose estimate does not overflow.
-/
import DioServe.Scheduler.Run

namespace Dio.Scheduler

open Data

/-! ## First minimum -/

theorem foldl_min_spec {α β : Type} [LinearOrder β] (key : α → β) : ∀ (xs : List α) (b : α),
    let m := xs.foldl (fun b y => if key y < key b then y else b) b
    (m = b ∨ m ∈ xs) ∧ key m ≤ key b ∧ ∀ y ∈ xs, key m ≤ key y
  | [], b => ⟨.inl rfl, le_refl _, fun y hy => by cases hy⟩
  | x :: xs, b => by
    obtain ⟨hm, hb, hall⟩ := foldl_min_spec key xs (if key x < key b then x else b)
    refine ⟨?_, ?_, ?_⟩
    · rcases hm with hm | hm
      · rw [List.foldl_cons, hm]
        split
        · exact .inr (List.mem_cons_self ..)
        · exact .inl rfl
      · exact .inr (List.mem_cons_of_mem _ hm)
    · apply hb.trans
      split
      · rename_i h; exact h.le
      · exact le_refl _
    · intro y hy
      rcases List.mem_cons.1 hy with rfl | hy
      · apply hb.trans
        split
        · exact le_refl _
        · rename_i h; exact not_lt.1 h
      · exact hall y hy

/-- `min` finds an element with the least key. -/
theorem firstMin_spec {α β : Type} [LinearOrder β] {key : α → β} {xs : List α} {m : α}
    (h : firstMin key xs = some m) : m ∈ xs ∧ ∀ y ∈ xs, key m ≤ key y := by
  cases xs with
  | nil => cases h
  | cons x xs =>
    cases h
    obtain ⟨hm, hb, hall⟩ := foldl_min_spec key xs x
    constructor
    · rcases hm with hm | hm
      · rw [hm]; exact List.mem_cons_self ..
      · exact List.mem_cons_of_mem _ hm
    · intro y hy
      rcases List.mem_cons.1 hy with rfl | hy
      · exact hb
      · exact hall y hy

theorem firstMin_ne_none {α β : Type} [LinearOrder β] (key : α → β) {xs : List α} (h : xs ≠ []) :
    ∃ m, firstMin key xs = some m := by
  cases xs with
  | nil => exact absurd rfl h
  | cons x xs => exact ⟨_, rfl⟩

variable {K : Type}

/-! ## Eligible workers -/

theorem mem_healthyIds {s : State K} (hn : (Dict.keys s.predictors).Nodup) {id : String} :
    id ∈ s.healthyIds ↔ ∃ w, Dict.get? s.predictors id = some w ∧ w.nlms.healthy = true := by
  simp only [State.healthyIds, List.mem_map, List.mem_filter, Prod.exists]
  constructor
  · rintro ⟨id', w, ⟨hm, hh⟩, rfl⟩
    exact ⟨w, Dict.get?_of_mem_of_nodup hn hm, hh⟩
  · rintro ⟨w, hw, hh⟩
    exact ⟨id, w, ⟨Dict.mem_of_get? hw, hh⟩, rfl⟩

theorem nodup_healthyIds {s : State K} (hn : (Dict.keys s.predictors).Nodup) : s.healthyIds.Nodup :=
  hn.sublist (List.filter_sublist.map Prod.fst)

/-- A change of one learner that leaves its health alone leaves the healthy workers alone. -/
theorem healthyIds_onNlms {f : DualTimescaleNlms K → DualTimescaleNlms K} (hf : ∀ m, (f m).healthy = m.healthy) (s : State K)
    (w : String) : (s.onNlms w f).healthyIds = s.healthyIds := by
  unfold State.healthyIds State.onNlms Dict.modify
  dsimp only
  rw [List.filter_map, List.map_map]
  refine congrArg (List.map Prod.fst) (List.filter_congr fun p _ => ?_)
  dsimp only [Function.comp_apply]
  split
  · exact hf p.2.nlms
  · rfl

theorem eligible_congr {s s' : State K} (h : s'.healthyIds = s.healthyIds) (allowed : Option (List String)) :
    eligible s' allowed = eligible s allowed := by
  unfold eligible
  rw [h]

theorem nodup_eligible {s : State K} (hn : (Dict.keys s.predictors).Nodup) (allowed : Option (List String)) :
    (eligible s allowed).Nodup := by
  unfold eligible
  split
  · exact nodup_healthyIds hn
  · exact (nodup_healthyIds hn).filter _

theorem mem_eligible {s : State K} (hn : (Dict.keys s.predictors).Nodup) {ids : List String} {id : String} :
    id ∈ eligible s (some ids) ↔ id ∈ ids ∧ ∃ w, Dict.get? s.predictors id = some w ∧ w.nlms.healthy = true := by
  simp only [eligible, List.mem_filter, decide_eq_true_eq, mem_healthyIds hn]
  tauto

theorem mem_eligible_iff {s : State K} {allowed : Option (List String)} {id : String} :
    id ∈ eligible s allowed ↔ id ∈ s.healthyIds ∧ ∀ ids, allowed = some ids → id ∈ ids := by
  cases allowed with
  | none => simp [eligible]
  | some ids => simp [eligible, List.mem_filter]

variable [Field K] [LinearOrder K] [FloorRing K]

/-! ## The gate -/

/-- The strategies that rank by the joint cost. -/
def Strategy.byCost : Strategy → Bool
  | .nlms | .rls | .static => true
  | .ewma | .roundRobin | .leastLoaded => false

/-- The number of tokens a pick routes by. -/
def PickArgs.count (a : PickArgs) : Int := a.tokens.getD (max 1 (a.prompt.length / 4 : Int))

/-- The scheduler ranks by cost and gates on observed latency. -/
structure ObservedGate (cfg : Cfg K) : Prop where
  strategy : cfg.strategy = .nlms ∨ cfg.strategy = .rls ∨ cfg.strategy = .static
  on : cfg.admissionOff = false
  mode : cfg.admissionMode = .empirical ∨ cfg.admissionMode = .strict

/-- The observed latencies do not close the gate: too few of them, or their tail is within the SLO. -/
def GateOpen (cfg : Cfg K) (recent : List K) : Prop := recent.length < 8 ∨ observedTail cfg recent ≤ cfg.sloMs

instance (cfg : Cfg K) (recent : List K) : Decidable (GateOpen cfg recent) :=
  inferInstanceAs (Decidable (_ ∨ _))

variable {cfg : Cfg K}

omit [Field K] [LinearOrder K] [FloorRing K] in
theorem ObservedGate.byCost (hg : ObservedGate cfg) : cfg.strategy.byCost = true := by
  rcases hg.strategy with h | h | h <;> rw [h] <;> rfl

/-- With somebody eligible, a pick by cost is the ranking's. -/
theorem pick_eq_pickCost (hcost : cfg.strategy.byCost = true) {s : State K} {a : PickArgs}
    (hne : eligible s a.allowedBackends ≠ []) :
    pick cfg s a = pickCost cfg s (eligible s a.allowedBackends) a.prompt a.count a.tier := by
  unfold pick
  dsimp only
  rw [if_neg hne]
  cases hs : cfg.strategy with
  | nlms => rfl
  | rls => rfl
  | static => rfl
  | ewma => rw [hs] at hcost; cases hcost
  | roundRobin => rw [hs] at hcost; cases hcost
  | leastLoaded => rw [hs] at hcost; cases hcost

/-- An open gate admits. -/
theorem reject_of_open (hg : ObservedGate cfg) {recent : List K} (h : GateOpen cfg recent) (best : K)
    (scores : List K) : (shouldRejectSlo cfg recent best scores).reject = false := by
  have hstrict : (strictGate cfg recent).reject = false := by
    unfold strictGate
    split
    · rfl
    · rename_i hlen
      rw [if_neg (not_lt.2 (h.resolve_left hlen))]
  have hempirical : (empiricalGate cfg recent best scores).reject = false := by
    unfold empiricalGate
    split
    · rfl
    · rename_i hlen
      rw [if_neg (not_lt.2 (h.resolve_left hlen))]
  unfold shouldRejectSlo
  rcases hg.mode with hm | hm <;> simp [hg.on, hm, hstrict, hempirical]

/-- A closed gate sheds, unless the mode is `empirical` and the best candidate stands out. -/
theorem reject_of_closed (hg : ObservedGate cfg) {recent : List K} (h : ¬ GateOpen cfg recent) {best : K}
    {scores : List K} (hw : cfg.admissionMode = .strict ∨ worstQuartile best scores = true) :
    (shouldRejectSlo cfg recent best scores).reject = true := by
  have hlen : ¬ recent.length < 8 := fun hl => h (.inl hl)
  have htail : observedTail cfg recent > cfg.sloMs := not_le.1 fun hl => h (.inr hl)
  have hstrict : (strictGate cfg recent).reject = true := by
    unfold strictGate; rw [if_neg hlen, if_pos htail]
  unfold shouldRejectSlo
  rcases hg.mode with hm | hm
  · have hq : worstQuartile best scores = true := hw.resolve_left (by rw [hm]; decide)
    have hempirical : (empiricalGate cfg recent best scores).reject = true := by
      unfold empiricalGate; rw [if_neg hlen, if_pos htail, if_pos hq]
    simp [hg.on, hm, hempirical]
  · simp [hg.on, hm, hstrict]

/-- A candidate that stands out is admitted whatever the tail. -/
theorem reject_of_standsOut (hg : ObservedGate cfg) (hm : cfg.admissionMode = .empirical) {recent : List K}
    {best : K} {scores : List K} (hq : worstQuartile best scores = false) :
    (shouldRejectSlo cfg recent best scores).reject = false := by
  have hempirical : (empiricalGate cfg recent best scores).reject = false := by
    unfold empiricalGate
    split
    · rfl
    · split
      · simp [hq]
      · rfl
  unfold shouldRejectSlo
  simp [hg.on, hm, hempirical]

/-! ## Candidates of a small request -/

/-- The request a continuation ends in: one token, for the given workers. -/
def smallRequest (workers : List String) : PickArgs := { prompt := "", tokens := some 1, allowedBackends := some workers }

/-- The estimate of a one-token request does not overflow. -/
def Feasible (cfg : Cfg K) (w : Worker K) : Prop := (estimate cfg w 1).1 < overflowMs

/-- In every state reachable from `s`, some worker's one-token estimate does not overflow. -/
def NoOverflow (cfg : Cfg K) (s : Sys K) : Prop :=
  ∀ s', Reach cfg s s' → ∃ id w, Dict.get? s'.sched.predictors id = some w ∧ Feasible cfg w

omit [FloorRing K] in
/-- A worker has a score exactly when nothing blocks it. -/
theorem score_eq_some_iff {s : State K} {id : String} {w : Worker K} {tokens : Int} {tier : String} {pkey : Nat}
    {d : RoutingDecision K} : score cfg s id w tokens tier pkey = some d ↔
      hardBlocked cfg s id w.nlms tokens tier = false ∧ (estimate cfg w tokens).1 < overflowMs ∧
        decision cfg s id w tokens tier pkey = d := by
  unfold score
  split
  · rename_i hb
    simp [hb]
  · rename_i hb
    split
    · rename_i hest
      simp [not_lt.2 hest]
    · rename_i hest
      simp [hb, not_le.1 hest]

omit [FloorRing K] in
/-- A one-token request of the small tier is blocked nowhere the estimate does not overflow. -/
theorem score_small {s : State K} {id : String} {w : Worker K} (hw : Feasible cfg w) (pkey : Nat) :
    score cfg s id w 1 "small" pkey = some (decision cfg s id w 1 "small" pkey) := by
  have hb : hardBlocked cfg s id w.nlms 1 "small" = false := by
    unfold hardBlocked
    cases engine cfg s id <;> simp
  exact score_eq_some_iff.2 ⟨hb, hw, rfl⟩

omit [FloorRing K] in
theorem mem_candidates {s : State K} {ids : List String} {tokens : Int} {tier : String} {pkey : Nat}
    {d : RoutingDecision K} : d ∈ candidates cfg s ids tokens tier pkey ↔
      ∃ id ∈ ids, ∃ w, Dict.get? s.predictors id = some w ∧ score cfg s id w tokens tier pkey = some d := by
  simp only [candidates, List.mem_filterMap, Option.bind_eq_some_iff]

/-- A pick whose gate does not shed its best candidate is admitted. -/
theorem pickCost_admits {s : State K} {ids : List String} {prompt tier : String} {tokens : Int}
    (hne : candidates cfg s ids tokens tier (cfg.prefixHash prompt) ≠ [])
    (hgate : ∀ best ∈ candidates cfg s ids tokens tier (cfg.prefixHash prompt),
      (∀ d ∈ candidates cfg s ids tokens tier (cfg.prefixHash prompt), best.totalMs ≤ d.totalMs) →
      (shouldRejectSlo cfg s.recentE2e best.totalMs
        ((candidates cfg s ids tokens tier (cfg.prefixHash prompt)).map (·.totalMs))).reject = false) :
    ∃ r, (pickCost cfg s ids prompt tokens tier).1 = .ok r := by
  obtain ⟨best, hbest⟩ := firstMin_ne_none (fun d : RoutingDecision K => d.totalMs) hne
  obtain ⟨hmem, hmin⟩ := firstMin_spec hbest
  unfold pickCost
  dsimp only
  rw [hbest]
  refine ⟨(best.workerId, best), ?_⟩
  show (admitOrShed cfg s _ best _).1 = _
  unfold admitOrShed
  dsimp only
  rw [hgate best hmem hmin]
  rfl

/-- A pick whose gate sheds every best candidate is rejected. -/
theorem pickCost_rejects {s : State K} {ids : List String} {prompt tier : String} {tokens : Int}
    (hgate : ∀ best, (shouldRejectSlo cfg s.recentE2e best
        ((candidates cfg s ids tokens tier (cfg.prefixHash prompt)).map (·.totalMs))).reject = true) :
    ∃ e, (pickCost cfg s ids prompt tokens tier).1 = .error e := by
  unfold pickCost
  dsimp only
  cases hbest : firstMin (fun d : RoutingDecision K => d.totalMs) (candidates cfg s ids tokens tier (cfg.prefixHash prompt)) with
  | none =>
    dsimp only
    unfold rejectInfeasible
    split
    · exact ⟨_, rfl⟩
    · exact ⟨_, rfl⟩
  | some best =>
    dsimp only
    unfold admitOrShed
    dsimp only
    rw [hgate best.totalMs]
    exact ⟨_, rfl⟩

end Dio.Scheduler
