/-
The per-backend latency models (`scheduler.py`): the dual-timescale NLMS with its robust update and
the recursive-least-squares baseline. Numbers are those of an ordered field with a floor.
-/
import DioServe.Data.Deque
import DioServe.Stats.Percentile

namespace Dio.Scheduler

open Data

/-! ## `DualTimescaleNLMS` -/

/-- `DualTimescaleNLMS`: per-backend latency model `y ≈ s * tokens + b`, with the slot and health
state the scheduler keeps on it. Deques are oldest first. -/
structure DualTimescaleNlms (K : Type) where
  robust : Bool
  errClip : K
  stepFrac : K
  slopeMax : K
  interceptMax : K
  clippedUpdates : Nat
  clipStreak : Nat
  contendedUpdates : Nat
  recent : List K
  inflightLog : List Nat
  muFast : K
  muSlow : K
  muBias : K
  blend : K
  fastSlope : K
  slowSlope : K
  intercept : K
  avgLatency : K
  dual : Bool
  frozen : Bool
  tier : String
  totalVramMb : K
  updateCount : Nat
  sumAbs : K
  sumRel : K
  sumSq : K
  pending : Nat
  freeVramMb : K
  healthy : Bool

/-- What `update` reports about one sample. -/
structure UpdateInfo (K : Type) where
  predicted : K
  actual : K
  absErr : K
  relErr : K
  fastSlope : K
  slowSlope : K

variable {K : Type}

/-- The parts of a learner that learning does not touch. -/
structure DualTimescaleNlms.SameSlot (m m' : DualTimescaleNlms K) : Prop where
  inflightLog : m'.inflightLog = m.inflightLog
  tier : m'.tier = m.tier
  totalVramMb : m'.totalVramMb = m.totalVramMb
  pending : m'.pending = m.pending
  freeVramMb : m'.freeVramMb = m.freeVramMb
  healthy : m'.healthy = m.healthy

theorem DualTimescaleNlms.SameSlot.trans {m₁ m₂ m₃ : DualTimescaleNlms K} (h : SameSlot m₁ m₂)
    (h' : SameSlot m₂ m₃) : SameSlot m₁ m₃ :=
  ⟨h'.inflightLog.trans h.inflightLog, h'.tier.trans h.tier, h'.totalVramMb.trans h.totalVramMb,
    h'.pending.trans h.pending, h'.freeVramMb.trans h.freeVramMb, h'.healthy.trans h.healthy⟩

variable [Field K] [LinearOrder K]

/-- `max(1, tokens)` as a number. -/
def tokenCount (tokens : Int) : K := ((max 1 tokens : Int) : K)

theorem tokenCount_pos [IsStrictOrderedRing K] (tokens : Int) : (0 : K) < tokenCount tokens :=
  Int.cast_pos.2 (Int.lt_of_lt_of_le Int.zero_lt_one (Int.le_max_left 1 tokens))

/-- The moving average of observed latency, started by its first positive sample. -/
def movingLatency (avg actual : K) : K := if avg ≤ 0 then actual else 9 / 10 * avg + 1 / 10 * actual

namespace DualTimescaleNlms

def recentMax : Nat := 32

def inflightMax : Nat := 1024

def effectiveSlope (m : DualTimescaleNlms K) : K :=
  if m.dual then m.blend * m.fastSlope + (1 - m.blend) * m.slowSlope else m.fastSlope

def mode (m : DualTimescaleNlms K) : String :=
  if m.frozen then "STATIC" else if m.dual then "DUAL" else "SINGLE"

/-- The predicted latency of a request. -/
def predict (m : DualTimescaleNlms K) (tokens : Int) : K := m.effectiveSlope * tokenCount tokens + m.intercept

def estimate (m : DualTimescaleNlms K) (tokens : Int) : K × K :=
  (m.predict tokens, if m.avgLatency > 0 then m.avgLatency else m.predict tokens)

/-- `_robust_scale`: the low quartile of recent samples, once there are enough. -/
def robustScale (m : DualTimescaleNlms K) (pred : K) : K :=
  if 8 ≤ m.recent.length then max ((Stats.sorted m.recent).getD ((m.recent.length - 1) / 4) 0) 1
  else max pred 1

/-- A sample whose error is taken at face value. -/
def trusted (m : DualTimescaleNlms K) (inflight : Nat) : Bool := !m.robust || inflight ≤ 1

/-- The widening of the tolerance in force. -/
def widen (m : DualTimescaleNlms K) (inflight : Nat) : K :=
  if m.trusted inflight then 1 else 2 ^ min m.clipStreak 6

/-- The tolerance of a contended sample, before widening. -/
def tolerance (m : DualTimescaleNlms K) (pred : K) : K := m.errClip * m.robustScale pred

/-- The error the update uses. -/
def updateErr (m : DualTimescaleNlms K) (pred err : K) (inflight : Nat) : K :=
  if m.trusted inflight then err
  else
    let limit := m.tolerance pred * m.widen inflight
    if err > limit then limit else if err < -limit then -limit else err

/-- The clipping counters after a sample. -/
def countClip (m : DualTimescaleNlms K) (pred err : K) (inflight : Nat) : DualTimescaleNlms K :=
  if m.trusted inflight then { m with clipStreak := 0 }
  else if m.updateErr pred err inflight ≠ err then
    { m with
      contendedUpdates := m.contendedUpdates + 1
      clippedUpdates := m.clippedUpdates + 1
      clipStreak := m.clipStreak + 1 }
  -- comfortably inside the tolerance: the streak is over
  else if |err| ≤ m.tolerance pred then
    { m with contendedUpdates := m.contendedUpdates + 1, clipStreak := 0 }
  else { m with contendedUpdates := m.contendedUpdates + 1 }

/-- The trust region on one slope step; a trusted sample has none. -/
def stepCap (m : DualTimescaleNlms K) (pred : K) (tokens : Int) (inflight : Nat) : Option K :=
  if m.trusted inflight then none
  else some (max (m.stepFrac * m.widen inflight * pred / tokenCount tokens) (1 / 10 ^ 9))

def capped (cap : Option K) (step : K) : K :=
  match cap with
  | none => step
  | some c => max (-c) (min c step)

def clamp (hi x : K) : K := max (1 / 10) (min hi x)

/-- The gradient step on the three parameters, clamped. -/
def descend (m : DualTimescaleNlms K) (cap : Option K) (err : K) (tokens : Int) : DualTimescaleNlms K :=
  let grad := err / tokenCount tokens
  let fast := m.fastSlope + capped cap (m.muFast * grad)
  -- with a single timescale both slopes move together
  let slow := if m.dual then m.slowSlope + capped cap (m.muSlow * grad) else fast
  { m with
    fastSlope := clamp m.slopeMax fast
    slowSlope := clamp m.slopeMax slow
    intercept := clamp m.interceptMax (m.intercept + m.muBias * err) }

/-- The part of `update` that learns. -/
def learn (m : DualTimescaleNlms K) (actualMs : K) (tokens : Int) (inflight : Nat) : DualTimescaleNlms K :=
  if m.frozen then m
  else
    let pred := m.predict tokens
    let err := actualMs - pred
    (m.countClip pred err inflight).descend (m.stepCap pred tokens inflight) (m.updateErr pred err inflight) tokens

/-- The error sums of `update`. -/
def tally (m : DualTimescaleNlms K) (actualMs : K) (tokens : Int) : DualTimescaleNlms K :=
  let err := actualMs - m.predict tokens
  { m with
    sumAbs := m.sumAbs + |err|
    sumRel := m.sumRel + |err| / max actualMs 1
    sumSq := m.sumSq + err * err
    updateCount := m.updateCount + 1 }

/-- `update`: learn from one request, `inflight` being how many requests were outstanding when it
was admitted. -/
def update (m : DualTimescaleNlms K) (actualMs : K) (tokens : Int) (inflight : Nat) :
    UpdateInfo K × DualTimescaleNlms K :=
  let pred := m.predict tokens
  let absErr := |actualMs - pred|
  let m := (m.tally actualMs tokens).learn actualMs tokens inflight
  let m := { m with
    recent := Deque.push recentMax m.recent actualMs
    avgLatency := movingLatency m.avgLatency actualMs }
  (⟨pred, actualMs, absErr, absErr / max actualMs 1, m.fastSlope, m.slowSlope⟩, m)

/-! ### What an update leaves alone -/

theorem descend_sameSlot (m : DualTimescaleNlms K) (cap : Option K) (err : K) (tokens : Int) :
    SameSlot m (m.descend cap err tokens) := ⟨rfl, rfl, rfl, rfl, rfl, rfl⟩

theorem countClip_sameSlot (m : DualTimescaleNlms K) (pred err : K) (inflight : Nat) :
    SameSlot m (m.countClip pred err inflight) := by
  unfold countClip
  split
  · exact ⟨rfl, rfl, rfl, rfl, rfl, rfl⟩
  · split
    · exact ⟨rfl, rfl, rfl, rfl, rfl, rfl⟩
    · split <;> exact ⟨rfl, rfl, rfl, rfl, rfl, rfl⟩

theorem learn_sameSlot (m : DualTimescaleNlms K) (actualMs : K) (tokens : Int) (inflight : Nat) :
    SameSlot m (m.learn actualMs tokens inflight) := by
  unfold learn
  split
  · exact ⟨rfl, rfl, rfl, rfl, rfl, rfl⟩
  · exact (countClip_sameSlot m _ _ inflight).trans (descend_sameSlot _ _ _ tokens)

/-- An update learns: slots, health, tier and memory of the worker stay. -/
theorem update_sameSlot (m : DualTimescaleNlms K) (actualMs : K) (tokens : Int) (inflight : Nat) :
    SameSlot m (m.update actualMs tokens inflight).2 := by
  have h0 : SameSlot m (m.tally actualMs tokens) := ⟨rfl, rfl, rfl, rfl, rfl, rfl⟩
  have h : SameSlot m ((m.tally actualMs tokens).learn actualMs tokens inflight) :=
    h0.trans (learn_sameSlot _ actualMs tokens inflight)
  exact ⟨h.inflightLog, h.tier, h.totalVramMb, h.pending, h.freeVramMb, h.healthy⟩

end DualTimescaleNlms

/-! ## `SimpleRLS` -/

/-- `SimpleRLS`: the 2×2 recursive-least-squares baseline. -/
structure SimpleRls (K : Type) where
  lam : K
  slope : K
  intercept : K
  p00 : K
  p01 : K
  p10 : K
  p11 : K
  avgLatency : K
  updateCount : Nat

namespace SimpleRls

/-- `SimpleRLS(slope=..., intercept=...)`. -/
def init (slope intercept : K) : SimpleRls K where
  lam := 99 / 100
  slope := slope
  intercept := intercept
  p00 := 1000
  p01 := 0
  p10 := 0
  p11 := 1000
  avgLatency := 0
  updateCount := 0

def predict (m : SimpleRls K) (tokens : Int) : K := m.slope * tokenCount tokens + m.intercept

def estimate (m : SimpleRls K) (tokens : Int) : K × K :=
  (m.predict tokens, if m.avgLatency > 0 then m.avgLatency else m.predict tokens)

def update (m : SimpleRls K) (actualMs : K) (tokens : Int) : SimpleRls K :=
  let x0 : K := tokenCount tokens
  let x1 : K := 1
  let err := actualMs - m.predict tokens
  let px0 := m.p00 * x0 + m.p01 * x1
  let px1 := m.p10 * x0 + m.p11 * x1
  let denom := max (1 / 10 ^ 9) (m.lam + x0 * px0 + x1 * px1)
  let k0 := px0 / denom
  let k1 := px1 / denom
  { m with
    slope := max (1 / 10) (m.slope + k0 * err)
    intercept := max (1 / 10) (m.intercept + k1 * err)
    p00 := (m.p00 - k0 * (x0 * m.p00 + x1 * m.p10)) / m.lam
    p01 := (m.p01 - k0 * (x0 * m.p01 + x1 * m.p11)) / m.lam
    p10 := (m.p10 - k1 * (x0 * m.p00 + x1 * m.p10)) / m.lam
    p11 := (m.p11 - k1 * (x0 * m.p01 + x1 * m.p11)) / m.lam
    updateCount := m.updateCount + 1
    avgLatency := movingLatency m.avgLatency actualMs }

end SimpleRls

end Dio.Scheduler
