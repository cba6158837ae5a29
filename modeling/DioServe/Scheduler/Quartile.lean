/-
When the empirical gate sheds (`scheduler.py`, `_should_reject_slo`). The best candidate is compared
with the upper quartile of all, so with two or more of them the gate sheds only where three quarters
cost what the best does.
-/
import DioServe.Scheduler.Ranking

namespace Dio.Scheduler

open Stats

variable {K : Type} [Field K] [LinearOrder K] [FloorRing K] {cfg : Cfg K}

/-! ## The gate and the costs of the candidates -/

/-- The empirical gate is on, and the tail of the latencies it has seen exceeds the SLO. -/
structure TailExceeds (cfg : Cfg K) (s : State K) : Prop where
  byCost : cfg.strategy.byCost = true
  on : cfg.admissionOff = false
  mode : cfg.admissionMode = .empirical
  warm : 8 ≤ s.recentE2e.length
  tail : observedTail cfg s.recentE2e > cfg.sloMs

/-- The costs of the candidates, in increasing order. -/
def scores (cfg : Cfg K) (s : State K) (a : PickArgs) : List K := sorted ((ranking cfg s a).map (·.totalMs))

omit [FloorRing K] in
theorem length_scores (s : State K) (a : PickArgs) : (scores cfg s a).length = (ranking cfg s a).length := by
  rw [scores, length_sorted, List.length_map]

omit [FloorRing K] in
/-- The best candidate has the first of them. -/
theorem best_totalMs {s : State K} {a : PickArgs} {d : RoutingDecision K} (h : best cfg s a = some d) :
    d.totalMs = (scores cfg s a).getD 0 0 := by
  obtain ⟨hmem, hmin⟩ := firstMin_spec h
  refine (sorted_getD_zero (List.mem_map_of_mem hmem) ?_ 0).symm
  intro y hy
  obtain ⟨d', hd', rfl⟩ := List.mem_map.1 hy
  exact hmin d' hd'

/-- A pick is rejected exactly when the gate sheds the best candidate. -/
theorem pick_rejects_iff (hcost : cfg.strategy.byCost = true) {s : State K} {a : PickArgs} {d : RoutingDecision K}
    (h : best cfg s a = some d) : (∃ e, (pick cfg s a).1 = .error e) ↔ (verdict cfg s a d).reject = true := by
  rw [pick_of_best hcost h]
  unfold admitOrShed
  dsimp only
  split
  · rename_i hr
    exact iff_of_true ⟨_, rfl⟩ hr
  · rename_i hr
    refine iff_of_false ?_ hr
    rintro ⟨e, he⟩
    cases he

/-- Past its SLO the gate asks whether the best candidate is in the worst quartile. -/
theorem TailExceeds.reject_eq {s : State K} (h : TailExceeds cfg s) (a : PickArgs) (d : RoutingDecision K) :
    (verdict cfg s a d).reject = worstQuartile d.totalMs ((ranking cfg s a).map (·.totalMs)) := by
  unfold verdict shouldRejectSlo empiricalGate
  rw [h.on, h.mode]
  simp only [Bool.false_eq_true, if_false]
  rw [if_neg (not_lt.2 h.warm), if_pos h.tail]
  split
  · rename_i hw
    exact hw.symm
  · rename_i hw
    exact (Bool.eq_false_of_not_eq_true hw).symm

variable [IsStrictOrderedRing K]

/-- With two candidates or more the worst quartile begins at the interpolated rank. -/
theorem worstQuartile_iff {s : State K} {a : PickArgs} (hn : 2 ≤ (ranking cfg s a).length) (bestScore : K) :
    worstQuartile bestScore ((ranking cfg s a).map (·.totalMs)) = true ↔
      atRank (scores cfg s a) (3 / 4 * (((ranking cfg s a).length - 1 : Nat) : K)) ≤ bestScore + 1 / 10 ^ 9 := by
  have hlen : 2 ≤ ((ranking cfg s a).map (·.totalMs)).length := by rwa [List.length_map]
  unfold worstQuartile
  rw [if_pos hlen, decide_eq_true_eq, percentile_eq_atRank hlen, rank_75, List.length_map, ge_iff_le, sub_le_iff_le_add]
  rfl

/-! ## Three quarters of the candidates tie -/

/-- With two or more feasible workers, a rejection of the empirical gate means that up to 1e-9 the cheapest three
quarters of them cost the same; and where they do, it rejects. -/
theorem rejects_ties {s : State K} (h : TailExceeds cfg s) {a : PickArgs} (hn : 2 ≤ (ranking cfg s a).length) :
    ((∃ e, (pick cfg s a).1 = .error e) → ∀ k ≤ ⌊3 / 4 * (((ranking cfg s a).length : K) - 1)⌋₊,
        (scores cfg s a).getD k 0 ≤ (scores cfg s a).getD 0 0 + 1 / 10 ^ 9) ∧
      ((∀ k ≤ ⌈3 / 4 * (((ranking cfg s a).length : K) - 1)⌉₊,
        (scores cfg s a).getD k 0 = (scores cfg s a).getD 0 0) → ∃ e, (pick cfg s a).1 = .error e) := by
  have hpos : 0 < (ranking cfg s a).length := Nat.lt_of_lt_of_le Nat.zero_lt_two hn
  obtain ⟨d, hd⟩ : ∃ d, best cfg s a = some d :=
    firstMin_ne_none (fun d : RoutingDecision K => d.totalMs) (List.ne_nil_of_length_pos hpos)
  have hrank : (3 / 4 * (((ranking cfg s a).length : K) - 1)) = rank (ranking cfg s a).length 75 := by
    rw [rank_75, Nat.cast_pred hpos]
  have hsorted : (scores cfg s a).Pairwise (· ≤ ·) := pairwise_sorted _
  have hceil : ⌈rank (ranking cfg s a).length (75 : K)⌉₊ < (scores cfg s a).length := by
    rw [length_scores]
    exact ceil_rank_lt hpos 75
  obtain ⟨hlo, hhi⟩ := atRank_mem_Icc hsorted (rank_nonneg _ _) hceil
  have hsheds : (∃ e, (pick cfg s a).1 = .error e) ↔
      atRank (scores cfg s a) (rank (ranking cfg s a).length 75) ≤ (scores cfg s a).getD 0 0 + 1 / 10 ^ 9 := by
    rw [pick_rejects_iff h.byCost hd, h.reject_eq, worstQuartile_iff hn, best_totalMs hd, rank_75]
  rw [hrank, hsheds]
  constructor
  · intro hle k hk
    have hfloor : ⌊rank (ranking cfg s a).length (75 : K)⌋₊ < (scores cfg s a).length :=
      Nat.lt_of_le_of_lt (Nat.floor_le_ceil _) hceil
    calc (scores cfg s a).getD k 0 ≤ (scores cfg s a).getD ⌊rank (ranking cfg s a).length (75 : K)⌋₊ 0 :=
          getD_mono hsorted 0 hk hfloor
      _ ≤ _ := hlo
      _ ≤ _ := hle
  · intro htie
    calc atRank (scores cfg s a) (rank (ranking cfg s a).length 75)
        ≤ (scores cfg s a).getD ⌈rank (ranking cfg s a).length (75 : K)⌉₊ 0 := hhi
      _ = (scores cfg s a).getD 0 0 := htie _ (le_refl _)
      _ ≤ _ := le_add_of_nonneg_right (by positivity)

/-- Two workers, the first of them slow eight times. -/
def slowPair : State ℚ :=
  (List.replicate 8 6000).foldl (fun s e2eMs => feedback defaultCfg s "gpu0" e2eMs 4 true)
    (fleet defaultCfg [oneWorker, { oneWorker with id := "gpu1" }]).sched

theorem rejects_ties_slowPair :
    ((∃ e, (pick defaultCfg slowPair { prompt := "a" }).1 = .error e) →
        ∀ k ≤ ⌊3 / 4 * (((ranking defaultCfg slowPair { prompt := "a" }).length : ℚ) - 1)⌋₊,
          (scores defaultCfg slowPair { prompt := "a" }).getD k 0 ≤
            (scores defaultCfg slowPair { prompt := "a" }).getD 0 0 + 1 / 10 ^ 9) ∧
      ((∀ k ≤ ⌈3 / 4 * (((ranking defaultCfg slowPair { prompt := "a" }).length : ℚ) - 1)⌉₊,
          (scores defaultCfg slowPair { prompt := "a" }).getD k 0 =
            (scores defaultCfg slowPair { prompt := "a" }).getD 0 0) →
        ∃ e, (pick defaultCfg slowPair { prompt := "a" }).1 = .error e) := by
  have htail : TailExceeds defaultCfg slowPair := ⟨rfl, rfl, rfl, by decide +kernel, by decide +kernel⟩
  exact rejects_ties htail (by decide +kernel)

end Dio.Scheduler
