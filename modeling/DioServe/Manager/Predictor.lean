/-
The latency predictors of the Go manager (`DIO/internal/scheduler`: `constants.go`, `PerWorkerPredictor` of
`loadbalancer.go`, `rls_predictor.go`), in exact arithmetic. A predictor that learns keeps its parameters above the
priors it started from, so that its estimates have a floor that no sample lowers.
-/
import DioServe.Stats.Numerals
import Mathlib.Algebra.Order.Field.Basic
import Mathlib.Algebra.Order.Ring.Abs
import Mathlib.Data.Fin.Basic
import Mathlib.Logic.Function.Basic
import Mathlib.Tactic.Linarith
import Mathlib.Tactic.NormNum

namespace Dio.Manager

variable {K : Type}

/-! ## Constants -/

section Constants

variable [Field K]

def muFast : K := 1 / 10

def muSlow : K := 1 / 100

def muBias : K := 5 / 1000

/-- The weight of the fast slope. -/
def fastSlowBlend : K := 8 / 10

def tierMismatchMs : K := 500

def cacheBonusMs : K := 200

def vramSoftLimitMb : Int := 4096

def vramHardLimitMb : Int := 2400

def batchSize : K := 8

def sloTtftMs : K := 2000

def initialSlope : K := 2

def initialIntercept : K := 150

def staticDefaultSlope : K := 1

def staticDefaultIntercept : K := 50

def predHistoryCap : Nat := 5000

/-- The forgetting factor. -/
def rlsLambda : K := 99 / 100

/-- `math.MaxFloat64`. -/
def maxFloat64 : K := 2 ^ 1024 - 2 ^ 971

end Constants

/-! ## PerWorkerPredictor -/

/-- A dual-timescale NLMS predictor, or a single-rate or frozen one. -/
structure PerWorkerPredictor (K : Type) where
  fastSlope : K
  slowSlope : K
  intercept : K
  averageLatency : K
  interferenceHist : Fin 3 → K
  histIdx : Fin 3
  sumSquaredError : K
  sumAbsErr : K
  sumRelErr : K
  updateCount : Nat
  useDualSlope : Bool
  frozen : Bool
  bandwidthPenalty : K
  tier : String
  totalVram : Int

/-- The average latency after one more request. -/
def movingAverage [Field K] [LinearOrder K] (avg actual : K) : K :=
  if avg = 0 then actual else 9 / 10 * avg + 1 / 10 * actual

/-- The share of the soft limit that is not free. -/
def contention [Field K] (vramMb : Int) : K := ((vramSoftLimitMb - vramMb : Int) : K) / (vramSoftLimitMb : K)

namespace PerWorkerPredictor

section Update

variable [Field K] [LinearOrder K] (p : PerWorkerPredictor K)

def effectiveSlope : K :=
  if p.useDualSlope then fastSlowBlend * p.fastSlope + (1 - fastSlowBlend) * p.slowSlope else p.fastSlope

def modeName : String := if p.frozen then "STATIC" else if p.useDualSlope then "DUAL" else "SINGLE"

/-- The latency model alone. -/
def base (tokens : Int) : K := p.effectiveSlope * tokens + p.intercept

/-- The prediction that `Update` compares a sample with. -/
def predicted (tokens : Int) (vramMb : Int) : K :=
  p.base tokens * if vramMb < vramSoftLimitMb then 1 + contention vramMb else 1

/-- The error sums of `Update`. -/
def record (actual err : K) : PerWorkerPredictor K :=
  { p with
    sumSquaredError := p.sumSquaredError + err * err
    sumAbsErr := p.sumAbsErr + |err|
    sumRelErr := p.sumRelErr + |err| / max actual 1
    updateCount := p.updateCount + 1 }

/-- The slopes and the intercept after an error, not yet bounded. -/
def descend (err : K) (tokens : Int) : PerWorkerPredictor K :=
  let grad := err / tokens
  let fastSlope := if 0 < tokens then p.fastSlope + muFast * grad else p.fastSlope
  let slowSlope :=
    if 0 < tokens then
      -- a single rate keeps the slow slope glued to the fast one
      if p.useDualSlope then p.slowSlope + muSlow * grad else fastSlope
    else p.slowSlope
  { p with fastSlope := fastSlope, slowSlope := slowSlope, intercept := p.intercept + muBias * err }

/-- The floors of `Update`. -/
def floored : PerWorkerPredictor K :=
  { p with
    fastSlope := max initialSlope p.fastSlope
    slowSlope := max initialSlope p.slowSlope
    intercept := max (1 / 10) p.intercept }

/-- How much slower than predicted the request was. -/
def noteRatio (ratio : K) : PerWorkerPredictor K :=
  { p with
    interferenceHist := Function.update p.interferenceHist p.histIdx ratio
    histIdx := p.histIdx + 1 }

def noteLatency (actual : K) : PerWorkerPredictor K := { p with averageLatency := movingAverage p.averageLatency actual }

/-- `Update`. -/
def update (actual : K) (tokens : Int) (vramMb : Int) : PerWorkerPredictor K :=
  let predicted := p.predicted tokens vramMb
  let err := actual - predicted
  let p := p.record actual err
  -- a static profile tracks its error and does not adapt
  if p.frozen then p.noteLatency actual
  else (((p.descend err tokens).floored).noteRatio (actual / (predicted + 1 / 10 ^ 9))).noteLatency actual

/-- The mean of the last three ratios, when there is one. -/
def avgInterference : K :=
  let avg := (p.interferenceHist 0 + p.interferenceHist 1 + p.interferenceHist 2) / 3
  if avg < 1 / 10 ^ 9 then 1 else avg

/-- `Estimate`: the predicted and the average latency. -/
def estimate (tokens : Int) (vramMb : Int) : K × K :=
  if vramMb > 0 ∧ vramMb < vramHardLimitMb ∧ tokens > 1000 then (maxFloat64, p.averageLatency)
  else
    let base := p.base tokens
    let memCost := if vramMb < vramSoftLimitMb then base * contention vramMb * p.bandwidthPenalty else 0
    (max base memCost * max 1 p.avgInterference, p.averageLatency)

end Update

end PerWorkerPredictor

/-! ## PerWorkerRLSPredictor -/

/-- A recursive least squares predictor of `slope * tokens + intercept`. -/
structure PerWorkerRlsPredictor (K : Type) where
  slope : K
  intercept : K
  p00 : K
  p01 : K
  p10 : K
  p11 : K
  averageLatency : K
  updateCount : Nat
  tier : String
  totalVram : Int

namespace PerWorkerRlsPredictor

section Update

variable [Field K] [LinearOrder K]

def new (tier : String) (totalVram : Int) : PerWorkerRlsPredictor K :=
  ⟨initialSlope, initialIntercept, 1000, 0, 0, 1000, 0, 0, tier, totalVram⟩

variable (p : PerWorkerRlsPredictor K)

/-- `Update`. -/
def update (actual : K) (tokens : Int) : PerWorkerRlsPredictor K :=
  if tokens ≤ 0 then p
  else
    let x0 : K := tokens
    let x1 : K := 1
    let err := actual - (p.slope * x0 + p.intercept)
    let px0 := p.p00 * x0 + p.p01 * x1
    let px1 := p.p10 * x0 + p.p11 * x1
    let denom := max (1 / 10 ^ 9) (rlsLambda + x0 * px0 + x1 * px1)
    let k0 := px0 / denom
    let k1 := px1 / denom
    { p with
      slope := max initialSlope (p.slope + k0 * err)
      intercept := max (1 / 10) (p.intercept + k1 * err)
      p00 := (p.p00 - k0 * (x0 * p.p00 + x1 * p.p10)) / rlsLambda
      p01 := (p.p01 - k0 * (x0 * p.p01 + x1 * p.p11)) / rlsLambda
      p10 := (p.p10 - k1 * (x0 * p.p00 + x1 * p.p10)) / rlsLambda
      p11 := (p.p11 - k1 * (x0 * p.p01 + x1 * p.p11)) / rlsLambda
      updateCount := p.updateCount + 1
      averageLatency := movingAverage p.averageLatency actual }

/-- `Estimate`: the predicted and the average latency. -/
def estimate (tokens : Int) (vramMb : Int) : K × K :=
  if vramMb < vramHardLimitMb ∧ tokens > 1000 then (maxFloat64, p.averageLatency)
  else (p.slope * tokens + p.intercept, p.averageLatency)

end Update

end PerWorkerRlsPredictor

/-! ## Floors -/

section Floor

variable [Field K] [LinearOrder K]

/-- What no estimate goes below. -/
def floorMs (tokens : Int) : K := initialSlope * tokens + 1 / 10

namespace PerWorkerPredictor

/-- The parameters are above the floors, and the averages are not negative. -/
structure Floored (p : PerWorkerPredictor K) : Prop where
  learns : p.frozen = false
  fast : initialSlope ≤ p.fastSlope
  slow : initialSlope ≤ p.slowSlope
  intercept : 1 / 10 ≤ p.intercept
  averageLatency : 0 ≤ p.averageLatency

variable {p : PerWorkerPredictor K}

@[simp] theorem update_tier (actual : K) (tokens vramMb : Int) : (p.update actual tokens vramMb).tier = p.tier := by
  unfold update
  dsimp only
  split <;> rfl

@[simp] theorem update_totalVram (actual : K) (tokens vramMb : Int) :
    (p.update actual tokens vramMb).totalVram = p.totalVram := by
  unfold update
  dsimp only
  split <;> rfl

variable [IsStrictOrderedRing K]

theorem movingAverage_nonneg {avg actual : K} (havg : 0 ≤ avg) (hactual : 0 ≤ actual) : 0 ≤ movingAverage avg actual := by
  unfold movingAverage
  split
  · exact hactual
  · linarith

/-- Whatever a sample says, the floors hold after it. -/
theorem Floored.update (h : p.Floored) {actual : K} (hactual : 0 ≤ actual) (tokens vramMb : Int) :
    (p.update actual tokens vramMb).Floored := by
  have hlearns : ¬ (p.record actual (actual - p.predicted tokens vramMb)).frozen = true := by
    show ¬ p.frozen = true
    rw [h.learns]
    exact Bool.false_ne_true
  unfold PerWorkerPredictor.update
  dsimp only
  rw [if_neg hlearns]
  constructor
  · exact h.learns
  · exact le_max_left _ _
  · exact le_max_left _ _
  · exact le_max_left _ _
  · exact movingAverage_nonneg h.averageLatency hactual

theorem Floored.effectiveSlope (h : p.Floored) : initialSlope ≤ p.effectiveSlope := by
  have hfast := h.fast
  have hslow := h.slow
  unfold PerWorkerPredictor.effectiveSlope fastSlowBlend
  split
  · linarith
  · exact hfast

theorem Floored.base (h : p.Floored) {tokens : Int} (htokens : 0 ≤ tokens) : floorMs tokens ≤ p.base tokens := by
  have hslope := mul_le_mul_of_nonneg_right h.effectiveSlope (Int.cast_nonneg htokens : (0 : K) ≤ tokens)
  have hintercept := h.intercept
  unfold floorMs PerWorkerPredictor.base
  linarith

theorem floorMs_nonneg {tokens : Int} (htokens : 0 ≤ tokens) : (0 : K) ≤ floorMs tokens := by
  have hcast : (0 : K) ≤ tokens := Int.cast_nonneg htokens
  unfold floorMs initialSlope
  linarith

/-- An estimate that is not the one of a memory block is above the floor. -/
theorem Floored.estimate (h : p.Floored) {tokens vramMb : Int} (htokens : 0 ≤ tokens)
    (hopen : (p.estimate tokens vramMb).1 ≠ maxFloat64) : floorMs tokens ≤ (p.estimate tokens vramMb).1 := by
  unfold PerWorkerPredictor.estimate at hopen ⊢
  split at hopen
  · exact absurd rfl hopen
  · rename_i hfree
    rw [if_neg hfree]
    dsimp only
    have hbase := (h.base htokens).trans (le_max_left (p.base tokens)
      (if vramMb < vramSoftLimitMb then p.base tokens * contention vramMb * p.bandwidthPenalty else 0))
    have hpos := (floorMs_nonneg htokens).trans hbase
    exact hbase.trans (le_mul_of_one_le_right hpos (le_max_left _ _))

end PerWorkerPredictor

namespace PerWorkerRlsPredictor

/-- The parameters are above the floors, and the average is not negative. -/
structure Floored (p : PerWorkerRlsPredictor K) : Prop where
  slope : initialSlope ≤ p.slope
  intercept : 1 / 10 ≤ p.intercept
  averageLatency : 0 ≤ p.averageLatency

variable {p : PerWorkerRlsPredictor K}

@[simp] theorem update_tier (actual : K) (tokens : Int) : (p.update actual tokens).tier = p.tier := by
  unfold update
  split <;> rfl

@[simp] theorem update_totalVram (actual : K) (tokens : Int) : (p.update actual tokens).totalVram = p.totalVram := by
  unfold update
  split <;> rfl

variable [IsStrictOrderedRing K]

theorem Floored.new (tier : String) (totalVram : Int) : (new tier totalVram : PerWorkerRlsPredictor K).Floored := by
  refine ⟨le_rfl, ?_, le_rfl⟩
  show (1 : K) / 10 ≤ initialIntercept
  unfold initialIntercept
  norm_num

theorem Floored.update (h : p.Floored) {actual : K} (hactual : 0 ≤ actual) (tokens : Int) : (p.update actual tokens).Floored := by
  unfold PerWorkerRlsPredictor.update
  split
  · exact h
  · exact ⟨le_max_left _ _, le_max_left _ _, PerWorkerPredictor.movingAverage_nonneg h.averageLatency hactual⟩

theorem Floored.estimate (h : p.Floored) {tokens vramMb : Int} (htokens : 0 ≤ tokens)
    (hopen : (p.estimate tokens vramMb).1 ≠ maxFloat64) : floorMs tokens ≤ (p.estimate tokens vramMb).1 := by
  unfold PerWorkerRlsPredictor.estimate at hopen ⊢
  split at hopen
  · exact absurd rfl hopen
  · rename_i hfree
    rw [if_neg hfree]
    have hslope := mul_le_mul_of_nonneg_right h.slope (Int.cast_nonneg htokens : (0 : K) ≤ tokens)
    have hintercept := h.intercept
    unfold floorMs
    linarith

end PerWorkerRlsPredictor

end Floor

end Dio.Manager
