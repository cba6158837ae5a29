/-
The joint cost of a worker (`scheduler.py`, `_score`), term by term. Where telemetry and learners are
in range the reported breakdown adds up and no term is negative, so the floor at zero never binds;
and less free memory never makes the cost smaller, though at exactly none it lifts the hard block.
-/
import DioServe.Scheduler.Outcome
import DioServe.Scheduler.Recovery

namespace Dio.Scheduler

open Data

variable {K : Type} [Field K] [LinearOrder K] {cfg : Cfg K}

/-! ## Ranges -/

/-- The cost coefficients are not negative. -/
structure NonnegCosts (cfg : Cfg K) : Prop where
  tier : 0 ≤ cfg.tierMismatchMs
  cache : 0 ≤ cfg.cacheBonusMs
  kv : 0 ≤ cfg.kvCacheCostMs
  queue : 0 ≤ cfg.engineQueueCostMs
  enginePrefix : 0 ≤ cfg.enginePrefixHitBonusMs

/-- A snapshot as an engine reports it: shares between 0 and 1, a queue that is not negative. -/
structure EngineSnapshot.InRange (eng : EngineSnapshot K) : Prop where
  kvLo : 0 ≤ eng.kvCacheUsage
  kvHi : eng.kvCacheUsage ≤ 1
  waiting : 0 ≤ eng.numWaiting
  hitLo : 0 ≤ eng.prefixHitRate
  hitHi : eng.prefixHitRate ≤ 1

/-- The slope and the intercept of both learners are positive. -/
structure Worker.Positive (w : Worker K) : Prop where
  slope : 0 < w.nlms.effectiveSlope
  intercept : 0 < w.nlms.intercept
  rlsSlope : 0 < w.rls.slope
  rlsIntercept : 0 < w.rls.intercept

/-- What holds of a worker the scheduler is told the truth about. -/
structure WorkerInRange (cfg : Cfg K) (s : State K) (id : String) (w : Worker K) : Prop where
  freeLo : 0 ≤ w.nlms.freeVramMb
  freeHi : w.nlms.freeVramMb ≤ w.nlms.totalVramMb
  learner : w.Positive
  engine : ∀ eng, engine cfg s id = some eng → eng.InRange

/-- The scraped prefix-hit rate that counts. -/
def hitRate (cfg : Cfg K) (s : State K) (id : String) : K :=
  match engine cfg s id with
  | some eng => eng.prefixHitRate
  | none => 0

/-- The affinity bonus and the prefix bonus before clamping. -/
def bonusRaw (cfg : Cfg K) (s : State K) (id : String) (pkey : Nat) : K :=
  (if affinityHit cfg s id pkey then cfg.cacheBonusMs else 0) + hitRate cfg s id * cfg.enginePrefixHitBonusMs

omit [LinearOrder K] in
theorem enginePrefixMs_eq (s : State K) (id : String) :
    enginePrefixMs cfg s id = hitRate cfg s id * cfg.enginePrefixHitBonusMs := by
  unfold enginePrefixMs hitRate
  cases engine cfg s id with
  | none => simp
  | some eng => rfl

variable [IsStrictOrderedRing K]

/-- Positive slopes mixed by a weight between 0 and 1 make a positive slope. -/
theorem DualTimescaleNlms.effectiveSlope_pos {m : DualTimescaleNlms K} (hf : 0 < m.fastSlope) (hs : 0 < m.slowSlope)
    (hlo : 0 ≤ m.blend) (hhi : m.blend ≤ 1) : 0 < m.effectiveSlope := by
  unfold DualTimescaleNlms.effectiveSlope
  split
  · rcases eq_or_lt_of_le hlo with h0 | h0
    · rw [← h0]; linarith
    · have hfast : 0 < m.blend * m.fastSlope := mul_pos h0 hf
      have hslow : 0 ≤ (1 - m.blend) * m.slowSlope := mul_nonneg (by linarith) hs.le
      linarith
  · exact hf

theorem estimate_pos {w : Worker K} (h : w.Positive) (tokens : Int) : 0 < (estimate cfg w tokens).1 := by
  have hn : (0 : K) < tokenCount tokens := tokenCount_pos tokens
  unfold estimate
  split
  · exact add_pos (mul_pos h.rlsSlope hn) h.rlsIntercept
  · exact add_pos (mul_pos h.slope hn) h.intercept

omit [IsStrictOrderedRing K] in
theorem hitRate_nonneg {s : State K} {id : String} (h : ∀ eng, engine cfg s id = some eng → 0 ≤ eng.prefixHitRate) :
    0 ≤ hitRate cfg s id := by
  unfold hitRate
  cases he : engine cfg s id with
  | none => exact le_refl _
  | some eng => exact h eng he

theorem bonusRaw_nonneg (hc : NonnegCosts cfg) {s : State K} {id : String} (hr : 0 ≤ hitRate cfg s id) (pkey : Nat) :
    0 ≤ bonusRaw cfg s id pkey := by
  refine add_nonneg ?_ (mul_nonneg hr hc.enginePrefix)
  split
  · exact hc.cache
  · exact le_refl _

/-! ## The clamp -/

theorem bonusScale_nonneg {raw allowed : K} (ha : 0 ≤ allowed) : 0 ≤ bonusScale raw allowed := by
  unfold bonusScale
  split
  · exact zero_le_one
  · rename_i h
    obtain ⟨hraw, -⟩ := not_or.1 h
    exact div_nonneg ha (not_le.1 hraw).le

omit [IsStrictOrderedRing K] in
/-- Scaled, the bonuses are what fits into the allowance. -/
theorem mul_bonusScale {raw allowed : K} (ha : 0 ≤ allowed) : raw * bonusScale raw allowed =
    min raw allowed := by
  unfold bonusScale
  split
  · rename_i h
    have hle : raw ≤ allowed := h.elim (fun h0 => h0.trans ha) id
    rw [mul_one, min_eq_left hle]
  · rename_i h
    obtain ⟨hpos, hlt⟩ := not_or.1 h
    rw [mul_div_cancel₀ _ (not_le.1 hpos).ne', min_eq_right (not_le.1 hlt).le]

/-! ## The terms -/

theorem waitMs_nonneg {w : Worker K} (h : w.Positive) (tokens : Int) : 0 ≤ waitMs cfg w tokens := by
  have hbatch : (0 : K) < cfg.batch := by
    unfold Cfg.batch
    split
    · rename_i hb; exact hb
    · norm_num
  unfold waitMs
  split
  · exact le_refl _
  · apply mul_nonneg (div_nonneg (Nat.cast_nonneg _) hbatch.le)
    split
    · rename_i ha; exact ha.le
    · exact (estimate_pos h tokens).le

omit [IsStrictOrderedRing K] in
theorem tierCostMs_nonneg (hc : NonnegCosts cfg) (m : DualTimescaleNlms K) (tier : String) : 0 ≤ tierCostMs cfg m tier := by
  unfold tierCostMs
  split
  · exact hc.tier
  · exact le_refl _

theorem vramCostMs_nonneg {m : DualTimescaleNlms K} (h : m.freeVramMb ≤ m.totalVramMb) : 0 ≤ vramCostMs cfg m := by
  unfold vramCostMs
  split
  · rename_i hv
    have hshare : m.freeVramMb / m.totalVramMb ≤ 1 := div_le_one_of_le₀ h hv.2.1.le
    exact mul_nonneg (by linarith) (by norm_num)
  · exact le_refl _

/-- The pressure cost grows as the free memory shrinks. -/
theorem vramCostMs_antitone {w : Worker K} {free free' : K} (hle : free' ≤ free) (htot : free ≤ w.nlms.totalVramMb) :
    vramCostMs cfg (w.withFree free).nlms ≤ vramCostMs cfg (w.withFree free').nlms := by
  by_cases hsoft : cfg.ablation.disableVramSoft = false ∧ 0 < w.nlms.totalVramMb ∧ free < cfg.vramSoftMb
  · obtain ⟨hon, hpos, hlt⟩ := hsoft
    have hcost : vramCostMs cfg (w.withFree free).nlms = (1 - free / w.nlms.totalVramMb) * 1000 := if_pos ⟨hon, hpos, hlt⟩
    have hcost' : vramCostMs cfg (w.withFree free').nlms = (1 - free' / w.nlms.totalVramMb) * 1000 :=
      if_pos ⟨hon, hpos, lt_of_le_of_lt hle hlt⟩
    have hshare : free' / w.nlms.totalVramMb ≤ free / w.nlms.totalVramMb := div_le_div_of_nonneg_right hle hpos.le
    rw [hcost, hcost']
    linarith
  · have hcost : vramCostMs cfg (w.withFree free).nlms = 0 := if_neg hsoft
    rw [hcost]
    exact vramCostMs_nonneg (hle.trans htot)

theorem engineKvCostMs_nonneg (hc : NonnegCosts cfg) {s : State K} {id : String}
    (h : ∀ eng, engine cfg s id = some eng → eng.InRange) : 0 ≤ engineKvCostMs cfg s id := by
  unfold engineKvCostMs
  cases he : engine cfg s id with
  | none => exact le_refl _
  | some eng => exact mul_nonneg (h eng he).kvLo hc.kv

theorem engineQueueCostMs_nonneg (hc : NonnegCosts cfg) {s : State K} {id : String}
    (h : ∀ eng, engine cfg s id = some eng → eng.InRange) : 0 ≤ engineQueueCostMs cfg s id := by
  unfold engineQueueCostMs
  cases he : engine cfg s id with
  | none => exact le_refl _
  | some eng => exact mul_nonneg (h eng he).waiting hc.queue

omit [IsStrictOrderedRing K] in
/-- The bonus a decision reports: the raw one, as far as the predicted time reaches. -/
theorem decision_cacheBonusMs (s : State K) (id : String) (w : Worker K) (tokens : Int) (tier : String)
    (pkey : Nat) : (decision cfg s id w tokens tier pkey).cacheBonusMs =
      min (bonusRaw cfg s id pkey) (max 0 (waitMs cfg w tokens + (estimate cfg w tokens).1)) := by
  rw [← mul_bonusScale (le_max_left 0 _)]
  unfold decision bonusRaw
  rw [enginePrefixMs_eq]
  exact (add_mul _ _ _).symm

/-! ## The breakdown -/

/-- A breakdown that adds up: no term negative, the bonus within the predicted time and short of the raw
one by what was clamped, and the total the sum of the terms. -/
structure RoutingDecision.AddsUp (d : RoutingDecision K) (raw : K) : Prop where
  waitMs : 0 ≤ d.waitMs
  execMs : 0 ≤ d.execMs
  tierCostMs : 0 ≤ d.tierCostMs
  vramCostMs : 0 ≤ d.vramCostMs
  engineKvCostMs : 0 ≤ d.engineKvCostMs
  engineQueueCostMs : 0 ≤ d.engineQueueCostMs
  bonusLo : 0 ≤ d.cacheBonusMs
  bonusHi : d.cacheBonusMs ≤ d.waitMs + d.execMs
  clamped : d.cacheBonusMs + d.bonusClampedMs = raw
  enginePrefix : d.enginePrefixBonusMs ≤ d.cacheBonusMs
  total : d.totalMs = d.waitMs + d.execMs + d.tierCostMs + d.vramCostMs + d.engineKvCostMs + d.engineQueueCostMs -
    d.cacheBonusMs

/-- The hard limit on free memory, for a long request. -/
def VramShort (cfg : Cfg K) (free : K) (tokens : Int) : Prop :=
  cfg.ablation.disableVramHard = false ∧ 0 < free ∧ free < cfg.vramHardMb ∧ 1000 < tokens

/-- The engine reports its KV cache nearly full. -/
def KvFull (cfg : Cfg K) (s : State K) (id : String) (tokens : Int) : Prop :=
  cfg.ablation.disableVramHard = false ∧ ∃ eng, engine cfg s id = some eng ∧ 95 / 100 < eng.kvCacheUsage ∧ 500 < tokens

/-- A request of the large tier on a worker of another. -/
def TierBarred (cfg : Cfg K) (w : Worker K) (tier : String) : Prop :=
  cfg.ablation.disableTier = false ∧ tier = "large" ∧ w.nlms.tier ≠ "large"

omit [IsStrictOrderedRing K] in
theorem hardBlocked_withFree {s : State K} {id : String} {w : Worker K} {free : K} {tokens : Int} {tier : String} :
    hardBlocked cfg s id (w.withFree free).nlms tokens tier = true ↔
      VramShort cfg free tokens ∨ KvFull cfg s id tokens ∨ TierBarred cfg w tier := by
  rw [hardBlocked_iff, and_or_left, or_assoc, and_assoc]
  exact Iff.rfl

/-- With less free memory a blocked request stays blocked, and an unblocked one costs no less. -/
structure LessIsNoBetter (cfg : Cfg K) (s : State K) (id : String) (w : Worker K) (tokens : Int) (tier : String) (pkey : Nat)
    (free free' : K) : Prop where
  blocked : hardBlocked cfg s id (w.withFree free).nlms tokens tier = true →
    hardBlocked cfg s id (w.withFree free').nlms tokens tier = true
  score : ∀ d d', score cfg s id (w.withFree free) tokens tier pkey = some d →
    score cfg s id (w.withFree free') tokens tier pkey = some d' → d.totalMs ≤ d'.totalMs

/-- The memory that was short is gone, and with it the only block. -/
def Exhausted (cfg : Cfg K) (s : State K) (id : String) (w : Worker K) (tokens : Int) (tier : String) (free free' : K) : Prop :=
  free' = 0 ∧ VramShort cfg free tokens ∧ ¬ KvFull cfg s id tokens ∧ ¬ TierBarred cfg w tier

theorem totalMs_antitone (s : State K) (id : String) (w : Worker K) (tokens : Int) (tier : String) (pkey : Nat) {free free' : K}
    (hle : free' ≤ free) (htot : free ≤ w.nlms.totalVramMb) :
    (decision cfg s id (w.withFree free) tokens tier pkey).totalMs ≤
      (decision cfg s id (w.withFree free') tokens tier pkey).totalMs := by
  have hvram : vramCostMs cfg (w.withFree free).nlms ≤ vramCostMs cfg (w.withFree free').nlms := vramCostMs_antitone hle htot
  -- no other term reads the free memory
  apply max_le_max (le_refl 0)
  exact sub_le_sub_right (sub_le_sub_right (add_le_add_left (add_le_add_left (add_le_add_right hvram _) _) _) _) _

/-- Less free memory makes a worker no more attractive, except when none is left of memory that was
below the hard limit and alone blocked the request. -/
theorem less_free_no_better_iff (s : State K) (id : String) (w : Worker K) (tokens : Int) (tier : String) (pkey : Nat)
    {free free' : K} (hlo : 0 ≤ free') (hle : free' ≤ free) (htot : free ≤ w.nlms.totalVramMb) :
    LessIsNoBetter cfg s id w tokens tier pkey free free' ↔ ¬ Exhausted cfg s id w tokens tier free free' := by
  constructor
  · rintro h ⟨hzero, hshort, hkv, htier⟩
    rcases hardBlocked_withFree.1 (h.blocked (hardBlocked_withFree.2 (.inl hshort))) with hs | hs | hs
    · exact hs.2.1.ne' hzero
    · exact hkv hs
    · exact htier hs
  · intro h
    constructor
    · intro hb
      rcases hardBlocked_withFree.1 hb with hs | hs | hs
      · rcases eq_or_lt_of_le hlo with h0 | hpos
        · -- nothing is left: another block must hold
          refine hardBlocked_withFree.2 (.inr ?_)
          by_contra hn
          obtain ⟨hkv, htier⟩ := not_or.1 hn
          exact h ⟨h0.symm, hs, hkv, htier⟩
        · obtain ⟨hon, -, hlt, htok⟩ := hs
          exact hardBlocked_withFree.2 (.inl ⟨hon, hpos, lt_of_le_of_lt hle hlt, htok⟩)
      · exact hardBlocked_withFree.2 (.inr (.inl hs))
      · exact hardBlocked_withFree.2 (.inr (.inr hs))
    · intro d d' hd hd'
      obtain rfl := score_workerId hd
      obtain rfl := score_workerId hd'
      exact totalMs_antitone s id w tokens tier pkey hle htot

theorem less_free_no_better_half : LessIsNoBetter defaultCfg .init "gpu0" (newWorker defaultCfg "small" 24000 none) 1001 "small" 0
      2000 1000 ↔
    ¬ Exhausted defaultCfg .init "gpu0" (newWorker defaultCfg "small" 24000 none) 1001 "small" 2000 1000 :=
  less_free_no_better_iff .init "gpu0" (newWorker defaultCfg "small" 24000 none) 1001 "small" 0 (by norm_num) (by norm_num)
    (by decide +kernel)

/-- A request of 1001 tokens is blocked with 2000 MB free and not with none. -/
theorem exhausted_unblocks :
    ¬ LessIsNoBetter defaultCfg .init "gpu0" (newWorker defaultCfg "small" 24000 none) 1001 "small" 0 2000 0 := by
  intro h
  have hblocked := h.blocked (by decide +kernel)
  revert hblocked
  decide +kernel

end Dio.Scheduler
