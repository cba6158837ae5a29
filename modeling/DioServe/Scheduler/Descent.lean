/-
One update of the NLMS learner (`scheduler.py`, `DualTimescaleNLMS.update`) as three steps toward its
error, each cut short. Together they do not carry the prediction past the sample; and the trust region
holds of the slopes' steps, but not of the intercept's.
-/
import DioServe.Scheduler.Run
import DioServe.Stats.Step

namespace Dio.Scheduler

open Stats

variable {K : Type}

namespace DualTimescaleNlms

/-! ## The parts of an update -/

/-- What an update reads and never changes. -/
structure Tuning (K : Type) where
  robust : Bool
  errClip : K
  stepFrac : K
  slopeMax : K
  interceptMax : K
  muFast : K
  muSlow : K
  muBias : K
  blend : K
  dual : Bool
  frozen : Bool

def tuning (m : DualTimescaleNlms K) : Tuning K :=
  ⟨m.robust, m.errClip, m.stepFrac, m.slopeMax, m.interceptMax, m.muFast, m.muSlow, m.muBias, m.blend, m.dual, m.frozen⟩

variable [Field K] [LinearOrder K]

/-- Slopes and intercept within their bounds. -/
structure InBox (m : DualTimescaleNlms K) : Prop where
  fast : m.fastSlope ∈ Set.Icc (1 / 10) m.slopeMax
  slow : m.slowSlope ∈ Set.Icc (1 / 10) m.slopeMax
  intercept : m.intercept ∈ Set.Icc (1 / 10) m.interceptMax

/-- The sum of the rates at which a prediction follows an error. -/
def Tuning.gain (t : Tuning K) : K :=
  if t.dual then t.blend * t.muFast + (1 - t.blend) * t.muSlow + t.muBias else t.muFast + t.muBias

/-- No rate is negative, the rates sum to one at most, and the prediction is a mean of the two slopes'. -/
structure Tuning.Sound (t : Tuning K) : Prop where
  muFast : 0 ≤ t.muFast
  muSlow : 0 ≤ t.muSlow
  muBias : 0 ≤ t.muBias
  blendLo : 0 ≤ t.blend
  blendHi : t.blend ≤ 1
  errClip : 0 ≤ t.errClip
  gain : t.gain ≤ 1

/-- How far a clamped parameter moves. -/
def moved (hi x step : K) : K := clamp hi (x + step) - x

/-- Counting clipped samples leaves the model alone. -/
theorem countClip_eq (m : DualTimescaleNlms K) (pred err : K) (inflight : Nat) : ∃ contended clipped streak,
    m.countClip pred err inflight =
      { m with contendedUpdates := contended, clippedUpdates := clipped, clipStreak := streak } := by
  unfold countClip
  split
  · exact ⟨_, _, _, rfl⟩
  · split
    · exact ⟨_, _, _, rfl⟩
    · split <;> exact ⟨_, _, _, rfl⟩

theorem update_tuning (m : DualTimescaleNlms K) (actualMs : K) (tokens : Int) (inflight : Nat) :
    (m.update actualMs tokens inflight).2.tuning = m.tuning := by
  show ((m.tally actualMs tokens).learn actualMs tokens inflight).tuning = m.tuning
  unfold learn
  split
  · rfl
  · dsimp only
    obtain ⟨a, b, c, h⟩ := countClip_eq (m.tally actualMs tokens) ((m.tally actualMs tokens).predict tokens)
      (actualMs - (m.tally actualMs tokens).predict tokens) inflight
    rw [h]
    rfl

/-- The parameters after an update that learns. -/
structure Steps (m m' : DualTimescaleNlms K) (cap : Option K) (err : K) (tokens : Int) : Prop where
  fast : m'.fastSlope = clamp m.slopeMax (m.fastSlope + capped cap (m.muFast * (err / tokenCount tokens)))
  slow : m'.slowSlope = clamp m.slopeMax (if m.dual then m.slowSlope + capped cap (m.muSlow * (err / tokenCount tokens))
    else m.fastSlope + capped cap (m.muFast * (err / tokenCount tokens)))
  intercept : m'.intercept = clamp m.interceptMax (m.intercept + m.muBias * err)

theorem update_steps {m : DualTimescaleNlms K} (hf : m.frozen = false) (actualMs : K) (tokens : Int) (inflight : Nat) :
    Steps m (m.update actualMs tokens inflight).2 (m.stepCap (m.predict tokens) tokens inflight)
      (m.updateErr (m.predict tokens) (actualMs - m.predict tokens) inflight) tokens := by
  have hlearn : (m.tally actualMs tokens).learn actualMs tokens inflight =
      ((m.tally actualMs tokens).countClip (m.predict tokens) (actualMs - m.predict tokens) inflight).descend
        (m.stepCap (m.predict tokens) tokens inflight)
        (m.updateErr (m.predict tokens) (actualMs - m.predict tokens) inflight) tokens := by
    unfold learn
    exact if_neg (by rw [show (m.tally actualMs tokens).frozen = false from hf]; exact Bool.false_ne_true)
  obtain ⟨a, b, c, h⟩ := countClip_eq (m.tally actualMs tokens) (m.predict tokens) (actualMs - m.predict tokens) inflight
  rw [h] at hlearn
  constructor
  · show ((m.tally actualMs tokens).learn actualMs tokens inflight).fastSlope = _
    rw [hlearn]
    rfl
  · show ((m.tally actualMs tokens).learn actualMs tokens inflight).slowSlope = _
    rw [hlearn]
    rfl
  · show ((m.tally actualMs tokens).learn actualMs tokens inflight).intercept = _
    rw [hlearn]
    rfl

/-- The steps of the two slopes and of the intercept, as a prediction for `tokens` tokens shows them. -/
def shift (m : DualTimescaleNlms K) (cap : Option K) (err : K) (tokens : Int) : K :=
  let fast := tokenCount tokens * moved m.slopeMax m.fastSlope (capped cap (m.muFast * (err / tokenCount tokens)))
  let slow := tokenCount tokens * moved m.slopeMax m.slowSlope (capped cap (m.muSlow * (err / tokenCount tokens)))
  (if m.dual then m.blend * fast + (1 - m.blend) * slow else fast) + moved m.interceptMax m.intercept (m.muBias * err)

theorem Steps.predict {m m' : DualTimescaleNlms K} {cap : Option K} {err : K} {tokens : Int}
    (h : Steps m m' cap err tokens) (ht : m'.tuning = m.tuning) : m'.predict tokens = m.predict tokens + m.shift cap err tokens := by
  have hdual : m'.dual = m.dual := congrArg Tuning.dual ht
  have hblend : m'.blend = m.blend := congrArg Tuning.blend ht
  unfold DualTimescaleNlms.predict effectiveSlope shift moved
  rw [hdual, hblend, h.fast, h.intercept]
  cases hd : m.dual with
  | false =>
    simp only [Bool.false_eq_true, if_false]
    ring
  | true =>
    rw [h.slow]
    simp only [hd, if_true]
    ring

/-! ## No overshoot -/

section Overshoot

variable [IsStrictOrderedRing K] {m : DualTimescaleNlms K}

theorem stepCap_nonneg (m : DualTimescaleNlms K) (pred : K) (tokens : Int) (inflight : Nat) :
    ∀ c, m.stepCap pred tokens inflight = some c → 0 ≤ c := by
  intro c hc
  unfold stepCap at hc
  split at hc
  · cases hc
  · cases hc
    exact le_max_of_le_right (by positivity)

theorem capped_toward {cap : Option K} (hcap : ∀ c, cap = some c → 0 ≤ c) {g e d : K} (h : Toward g e d) :
    Toward g e (capped cap d) := by
  cases cap with
  | none => exact h
  | some c => exact h.clip (hcap c rfl)

/-- A slope's step, seen at `tokens` tokens, goes toward the error at the slope's rate. -/
theorem slope_toward {cap : Option K} (hcap : ∀ c, cap = some c → 0 ≤ c) {hi x mu : K} (hx : x ∈ Set.Icc (1 / 10) hi)
    (hmu : 0 ≤ mu) (err : K) (tokens : Int) :
    Toward mu err (tokenCount tokens * moved hi x (capped cap (mu * (err / tokenCount tokens)))) := by
  have ht : (0 : K) < tokenCount tokens := tokenCount_pos tokens
  have hstep : Toward (mu / tokenCount tokens) err (mu * (err / tokenCount tokens)) := by
    rw [← mul_div_assoc, mul_div_right_comm]
    exact .gain (div_nonneg hmu ht.le) err
  have hmoved : Toward (mu / tokenCount tokens) err (moved hi x (capped cap (mu * (err / tokenCount tokens)))) :=
    (capped_toward hcap hstep).box hx
  have h := hmoved.smul ht.le
  rwa [mul_div_cancel₀ mu ht.ne'] at h

theorem shift_toward (hs : m.tuning.Sound) (hb : m.InBox) {cap : Option K} (hcap : ∀ c, cap = some c → 0 ≤ c) (err : K)
    (tokens : Int) : Toward m.tuning.gain err (m.shift cap err tokens) := by
  have hfast := slope_toward hcap hb.fast hs.muFast err tokens
  have hslow := slope_toward hcap hb.slow hs.muSlow err tokens
  have hint : Toward m.muBias err (moved m.interceptMax m.intercept (m.muBias * err)) :=
    (Toward.gain hs.muBias err).box hb.intercept
  show Toward (if m.dual then m.blend * m.muFast + (1 - m.blend) * m.muSlow + m.muBias else m.muFast + m.muBias) _ _
  unfold shift
  cases m.dual with
  | false =>
    simp only [Bool.false_eq_true, if_false]
    exact hfast.add hint
  | true =>
    simp only [if_true]
    exact ((hfast.smul hs.blendLo).add (hslow.smul (sub_nonneg.2 hs.blendHi))).add hint

omit [IsStrictOrderedRing K] in
theorem one_le_robustScale (m : DualTimescaleNlms K) (pred : K) : 1 ≤ m.robustScale pred := by
  unfold robustScale
  split <;> exact le_max_right _ _

/-- The error an update uses is a part of the sample's. -/
theorem updateErr_toward (hs : m.tuning.Sound) (pred err : K) (inflight : Nat) : Toward 1 err (m.updateErr pred err inflight) := by
  unfold updateErr
  split
  · have h := Toward.gain (zero_le_one (α := K)) err
    rwa [one_mul] at h
  · rename_i ht
    apply Toward.cut
    have hscale : 0 ≤ m.robustScale pred := zero_le_one.trans (one_le_robustScale m pred)
    have hwiden : 0 ≤ m.widen inflight := by
      unfold widen
      rw [if_neg ht]
      positivity
    exact mul_nonneg (mul_nonneg hs.errClip hscale) hwiden

omit [IsStrictOrderedRing K] in
theorem update_inBox (hb : m.InBox) (hf : m.frozen = false) (actualMs : K) (tokens : Int) (inflight : Nat) :
    (m.update actualMs tokens inflight).2.InBox := by
  have hsteps := update_steps hf actualMs tokens inflight
  have ht := update_tuning m actualMs tokens inflight
  have hslope : (m.update actualMs tokens inflight).2.slopeMax = m.slopeMax := congrArg Tuning.slopeMax ht
  have hint : (m.update actualMs tokens inflight).2.interceptMax = m.interceptMax := congrArg Tuning.interceptMax ht
  have hle : 1 / 10 ≤ m.slopeMax := hb.fast.1.trans hb.fast.2
  constructor
  · rw [hslope, hsteps.fast]
    exact box_mem_Icc hle _
  · rw [hslope, hsteps.slow]
    exact box_mem_Icc hle _
  · rw [hint, hsteps.intercept]
    exact box_mem_Icc (hb.intercept.1.trans hb.intercept.2) _

theorem Tuning.Sound.gain_nonneg {t : Tuning K} (h : t.Sound) : 0 ≤ t.gain := by
  unfold Tuning.gain
  split
  · have hslow : 0 ≤ (1 - t.blend) * t.muSlow := mul_nonneg (sub_nonneg.2 h.blendHi) h.muSlow
    exact add_nonneg (add_nonneg (mul_nonneg h.blendLo h.muFast) hslow) h.muBias
  · exact add_nonneg h.muFast h.muBias

/-- One update takes the prediction toward the sample, not past it. -/
theorem update_between (hs : m.tuning.Sound) (hb : m.InBox) (hf : m.frozen = false) (actualMs : K) (tokens : Int)
    (inflight : Nat) : (m.update actualMs tokens inflight).2.predict tokens ∈ Set.uIcc (m.predict tokens) actualMs := by
  rw [(update_steps hf actualMs tokens inflight).predict (update_tuning m actualMs tokens inflight)]
  have hshift := shift_toward hs hb (stepCap_nonneg m (m.predict tokens) tokens inflight)
    (m.updateErr (m.predict tokens) (actualMs - m.predict tokens) inflight) tokens
  exact ((updateErr_toward hs _ _ inflight).trans hs.gain_nonneg hshift).mem_uIcc hs.gain

/-- A finished request, as a learner sees it. -/
structure Sample (K : Type) where
  actualMs : K
  tokens : Int
  inflight : Nat

/-- The learner after a sample. -/
def observe (m : DualTimescaleNlms K) (s : Sample K) : DualTimescaleNlms K := (m.update s.actualMs s.tokens s.inflight).2

/-- In a run over any samples, every update keeps the parameters in their ranges and takes the prediction toward
its sample, not past it. -/
theorem no_overshoot (hs : m.tuning.Sound) (hb : m.InBox) (hf : m.frozen = false) (run : List (Sample K)) (s : Sample K) :
    ((run.foldl observe m).observe s).InBox ∧
      ((run.foldl observe m).observe s).predict s.tokens ∈ Set.uIcc ((run.foldl observe m).predict s.tokens) s.actualMs := by
  induction run generalizing m with
  | nil => exact ⟨update_inBox hb hf _ _ _, update_between hs hb hf _ _ _⟩
  | cons r run ih =>
    have ht : (m.observe r).tuning = m.tuning := update_tuning m _ _ _
    apply ih
    · rw [ht]
      exact hs
    · exact update_inBox hb hf _ _ _
    · exact (congrArg Tuning.frozen ht).trans hf

/-- The learner of a new worker. -/
def newLearner : DualTimescaleNlms ℚ := (newWorker defaultCfg "small" 24000 none).nlms

theorem no_overshoot_new :
    (([⟨900, 40, 3⟩].foldl observe newLearner).observe ⟨100, 8, 1⟩).InBox ∧
      (([⟨900, 40, 3⟩].foldl observe newLearner).observe ⟨100, 8, 1⟩).predict 8 ∈
        Set.uIcc (([⟨900, 40, 3⟩].foldl observe newLearner).predict 8) 100 := by
  have hs : newLearner.tuning.Sound := by constructor <;> decide +kernel
  have hb : newLearner.InBox := by constructor <;> (constructor <;> decide +kernel)
  exact no_overshoot hs hb rfl [⟨900, 40, 3⟩] ⟨100, 8, 1⟩

end Overshoot

/-! ## The trust region -/

/-- The default learning rates. -/
structure Tuning.DefaultRates (t : Tuning K) : Prop where
  muFast : t.muFast = 1 / 10
  muSlow : t.muSlow = 1 / 100
  muBias : t.muBias = 5 / 1000
  blend : t.blend = 8 / 10

section TrustRegion

variable (m : DualTimescaleNlms K)

/-- How far a contended sample may move the prediction. -/
def region (tokens : Int) : K := m.stepFrac * 2 ^ min m.clipStreak 6 * m.predict tokens

/-- The error of a contended sample, cut to the tolerance. -/
def contendedErr (actualMs : K) (tokens : Int) : K :=
  let err := actualMs - m.predict tokens
  let limit := m.errClip * m.robustScale (m.predict tokens) * 2 ^ min m.clipStreak 6
  if err > limit then limit else if err < -limit then -limit else err

/-- The length of a slope's step at `tokens` tokens: cut to the trust region (or a billionth a token, where that is more),
and to the room the slope has. -/
def slopeTravel (x mu err : K) (tokens : Int) : K :=
  min (min (mu * |err|) (max (m.region tokens) (tokenCount tokens / 10 ^ 9))) (tokenCount tokens * room (1 / 10) m.slopeMax x err)

/-- The length of the slopes' steps together. -/
def slopesTravel (err : K) (tokens : Int) : K :=
  if m.dual then m.blend * m.slopeTravel m.fastSlope m.muFast err tokens +
    (1 - m.blend) * m.slopeTravel m.slowSlope m.muSlow err tokens
  else m.slopeTravel m.fastSlope m.muFast err tokens

/-- The length of the intercept's step, which nothing but its range cuts. -/
def interceptTravel (err : K) : K := min (m.muBias * |err|) (room (1 / 10) m.interceptMax m.intercept err)

/-- The slopes leave the intercept enough of the trust region. -/
def Contained (actualMs : K) (tokens : Int) : Prop :=
  m.interceptTravel (m.contendedErr actualMs tokens) ≤
    m.region tokens - m.slopesTravel (m.contendedErr actualMs tokens) tokens

/-- The trust region is not degenerate, and the full steps stay within the parameters' ranges. -/
structure Roomy (actualMs : K) (tokens : Int) : Prop where
  region : tokenCount tokens / 10 ^ 9 ≤ m.region tokens
  fast : m.muFast * |m.contendedErr actualMs tokens| ≤
    tokenCount tokens * room (1 / 10) m.slopeMax m.fastSlope (m.contendedErr actualMs tokens)
  slow : m.muSlow * |m.contendedErr actualMs tokens| ≤
    tokenCount tokens * room (1 / 10) m.slopeMax m.slowSlope (m.contendedErr actualMs tokens)
  intercept : m.muBias * |m.contendedErr actualMs tokens| ≤
    room (1 / 10) m.interceptMax m.intercept (m.contendedErr actualMs tokens)

variable {m}

omit [Field K] [LinearOrder K] in
theorem not_trusted (hr : m.robust = true) {inflight : Nat} (hn : 2 ≤ inflight) : m.trusted inflight = false := by
  unfold trusted
  rw [hr, decide_eq_false (by omega)]
  rfl

theorem updateErr_contended (hr : m.robust = true) {inflight : Nat} (hn : 2 ≤ inflight) (actualMs : K) (tokens : Int) :
    m.updateErr (m.predict tokens) (actualMs - m.predict tokens) inflight = m.contendedErr actualMs tokens := by
  have ht : ¬ m.trusted inflight = true := by simp [not_trusted hr hn]
  unfold updateErr contendedErr tolerance widen
  rw [if_neg ht, if_neg ht]

theorem stepCap_contended (hr : m.robust = true) {inflight : Nat} (hn : 2 ≤ inflight) (tokens : Int) :
    m.stepCap (m.predict tokens) tokens inflight = some (max (m.region tokens / tokenCount tokens) (1 / 10 ^ 9)) := by
  have ht : ¬ m.trusted inflight = true := by simp [not_trusted hr hn]
  unfold stepCap widen region
  rw [if_neg ht, if_neg ht]

variable [IsStrictOrderedRing K]

theorem abs_slope {x mu : K} (hx : x ∈ Set.Icc (1 / 10) m.slopeMax) (hmu : 0 ≤ mu) (err : K) (tokens : Int) :
    |tokenCount tokens * moved m.slopeMax x (capped (some (max (m.region tokens / tokenCount tokens) (1 / 10 ^ 9)))
      (mu * (err / tokenCount tokens)))| = m.slopeTravel x mu err tokens := by
  have ht : (0 : K) < tokenCount tokens := tokenCount_pos tokens
  have hcap : (0 : K) ≤ max (m.region tokens / tokenCount tokens) (1 / 10 ^ 9) := le_max_of_le_right (by positivity)
  have hstep : Toward (mu / tokenCount tokens) err (mu * (err / tokenCount tokens)) := by
    rw [← mul_div_assoc, mul_div_right_comm]
    exact .gain (div_nonneg hmu ht.le) err
  have hlen : |mu * (err / tokenCount tokens)| = mu * |err| / tokenCount tokens := by
    rw [abs_mul, abs_div, abs_of_nonneg hmu, abs_of_pos ht, mul_div_assoc]
  have hbox : |moved m.slopeMax x (capped (some (max (m.region tokens / tokenCount tokens) (1 / 10 ^ 9)))
      (mu * (err / tokenCount tokens)))| =
      min (min (mu * |err| / tokenCount tokens) (max (m.region tokens / tokenCount tokens) (1 / 10 ^ 9)))
        (room (1 / 10) m.slopeMax x err) := by
    rw [← hlen, ← abs_clip hcap]
    exact abs_box hx (hstep.clip hcap)
  rw [abs_mul, abs_of_pos ht, hbox, mul_min_of_nonneg _ _ ht.le, mul_min_of_nonneg _ _ ht.le, mul_max_of_nonneg _ _ ht.le,
    mul_div_cancel₀ _ ht.ne', mul_div_cancel₀ _ ht.ne', mul_one_div]
  rfl

theorem rates_nonneg (hd : m.tuning.DefaultRates) :
    0 ≤ m.muFast ∧ 0 ≤ m.muSlow ∧ 0 ≤ m.muBias ∧ 0 ≤ m.blend ∧ 0 ≤ 1 - m.blend := by
  have hmuf : m.muFast = 1 / 10 := hd.muFast
  have hmus : m.muSlow = 1 / 100 := hd.muSlow
  have hmub : m.muBias = 5 / 1000 := hd.muBias
  have hblend : m.blend = 8 / 10 := hd.blend
  rw [hmuf, hmus, hmub, hblend]
  norm_num

/-- The prediction moves by the lengths of the steps together. -/
theorem abs_shift (hb : m.InBox) (hd : m.tuning.DefaultRates) (err : K) (tokens : Int) :
    |m.shift (some (max (m.region tokens / tokenCount tokens) (1 / 10 ^ 9))) err tokens| =
      m.slopesTravel err tokens + m.interceptTravel err := by
  obtain ⟨hmuf, hmus, hmub, hlo, hhi⟩ := rates_nonneg hd
  have hcap : ∀ c, some (max (m.region tokens / tokenCount tokens) (1 / 10 ^ 9)) = some c → (0 : K) ≤ c := by
    rintro c ⟨⟩
    exact le_max_of_le_right (by positivity)
  have hfast := slope_toward hcap hb.fast hmuf err tokens
  have hslow := slope_toward hcap hb.slow hmus err tokens
  have hint : Toward m.muBias err (moved m.interceptMax m.intercept (m.muBias * err)) :=
    (Toward.gain hmub err).box hb.intercept
  have hbias : |moved m.interceptMax m.intercept (m.muBias * err)| = m.interceptTravel err := by
    have hlen : |m.muBias * err| = m.muBias * |err| := by rw [abs_mul, abs_of_nonneg hmub]
    unfold interceptTravel
    rw [← hlen]
    exact abs_box hb.intercept (.gain hmub err)
  have hlenf := abs_slope hb.fast hmuf err tokens
  have hlens := abs_slope hb.slow hmus err tokens
  unfold shift slopesTravel
  cases m.dual with
  | false =>
    simp only [Bool.false_eq_true, if_false]
    rw [hfast.abs_add hint, hlenf, hbias]
  | true =>
    simp only [if_true]
    rw [((hfast.smul hlo).add (hslow.smul hhi)).abs_add hint, (hfast.smul hlo).abs_add (hslow.smul hhi), abs_mul m.blend,
      abs_mul (1 - m.blend), abs_of_nonneg hlo, abs_of_nonneg hhi, hlenf, hlens, hbias]

/-- The steps of a single learner that nothing else cuts, for an error of length `v`. -/
theorem single_contained_iff {v region : K} (hpos : 0 < region) :
    5 / 1000 * v ≤ region - min (1 / 10 * v) region ↔ v ≤ 200 / 21 * region := by
  rcases le_total (1 / 10 * v) region with hle | hge
  · rw [min_eq_left hle]
    constructor
    · intro h
      linarith only [h]
    · intro h
      linarith only [h]
  · rw [min_eq_right hge]
    -- the slope takes the whole region
    constructor
    · intro h
      linarith only [h, hge, hpos]
    · intro h
      linarith only [h, hge, hpos]

/-- The steps of a dual learner that nothing else cuts. -/
theorem dual_contained_iff {v region : K} (hv : 0 ≤ v) (hpos : 0 < region) :
    5 / 1000 * v ≤ region - (8 / 10 * min (1 / 10 * v) region + (1 - 8 / 10) * min (1 / 100 * v) region) ↔
      v ≤ 200 / 7 * region := by
  rcases le_total (1 / 10 * v) region with hle | hge
  · rw [min_eq_left hle, min_eq_left (by linarith only [hle, hv])]
    constructor
    · intro h
      linarith only [h, hle, hpos]
    · intro h
      linarith only [h, hle, hpos]
  · rcases le_total (1 / 100 * v) region with hle' | hge'
    · rw [min_eq_right hge, min_eq_left hle']
      constructor
      · intro h
        linarith only [h]
      · intro h
        linarith only [h]
    · rw [min_eq_right hge, min_eq_right hge']
      constructor
      · intro h
        linarith only [h, hge', hpos]
      · intro h
        linarith only [h, hge', hpos]

/-- Where nothing but tolerance and trust region cuts the steps, the error decides. -/
theorem contained_iff_small (hd : m.tuning.DefaultRates) {actualMs : K} {tokens : Int} (h : m.Roomy actualMs tokens) :
    m.Contained actualMs tokens ↔
      |m.contendedErr actualMs tokens| ≤ (if m.dual then 200 / 7 else 200 / 21) * m.region tokens := by
  have ht : (0 : K) < tokenCount tokens / 10 ^ 9 := div_pos (tokenCount_pos tokens) (by positivity)
  have hpos : 0 < m.region tokens := ht.trans_le h.region
  have hmuf : m.muFast = 1 / 10 := hd.muFast
  have hmus : m.muSlow = 1 / 100 := hd.muSlow
  have hmub : m.muBias = 5 / 1000 := hd.muBias
  have hblend : m.blend = 8 / 10 := hd.blend
  obtain ⟨hregion, hfast, hslow, hint⟩ := h
  unfold Contained slopesTravel slopeTravel interceptTravel
  rw [max_eq_left hregion, min_eq_left hint, min_eq_left ((min_le_left _ _).trans hfast),
    min_eq_left ((min_le_left _ _).trans hslow), hmuf, hmus, hmub, hblend]
  cases m.dual with
  | false =>
    simp only [Bool.false_eq_true, if_false]
    exact single_contained_iff hpos
  | true =>
    simp only [if_true]
    exact dual_contained_iff (abs_nonneg _) hpos

/-- A contended sample moves the prediction within the trust region exactly when the slopes leave the intercept
enough of it: away from the bounds, when the error cut to the tolerance is a small enough multiple of it. -/
theorem trust_region_iff (hr : m.robust = true) (hf : m.frozen = false) (hb : m.InBox) (hd : m.tuning.DefaultRates)
    {inflight : Nat} (hn : 2 ≤ inflight) (actualMs : K) (tokens : Int) :
    (|(m.update actualMs tokens inflight).2.predict tokens - m.predict tokens| ≤
        m.stepFrac * 2 ^ min m.clipStreak 6 * m.predict tokens ↔ m.Contained actualMs tokens) ∧
      (m.Roomy actualMs tokens → (m.Contained actualMs tokens ↔
        |m.contendedErr actualMs tokens| ≤ (if m.dual then 200 / 7 else 200 / 21) * m.region tokens)) := by
  constructor
  · have hpredict := (update_steps hf actualMs tokens inflight).predict (update_tuning m actualMs tokens inflight)
    rw [hpredict, add_sub_cancel_left, updateErr_contended hr hn, stepCap_contended hr hn, abs_shift hb hd]
    exact le_sub_iff_add_le'.symm
  · exact contained_iff_small hd

theorem newLearner_inBox : newLearner.InBox := by
  constructor <;> (constructor <;> decide +kernel)

theorem newLearner_rates : newLearner.tuning.DefaultRates := by
  constructor <;> decide +kernel

theorem trust_region_new :
    (|(newLearner.update 300 1 2).2.predict 1 - newLearner.predict 1| ≤
        newLearner.stepFrac * 2 ^ min newLearner.clipStreak 6 * newLearner.predict 1 ↔ newLearner.Contained 300 1) ∧
      (newLearner.Roomy 300 1 → (newLearner.Contained 300 1 ↔
        |newLearner.contendedErr 300 1| ≤ (if newLearner.dual then 200 / 7 else 200 / 21) * newLearner.region 1)) :=
  trust_region_iff rfl rfl newLearner_inBox newLearner_rates (le_refl 2) 300 1

/-- A contended sample of 1000 ms at one token: the slopes leave 0.912 ms of the 7.6 ms, the intercept takes 1.52 ms. -/
theorem contended_moves_too_far : newLearner.robust = true ∧ newLearner.frozen = false ∧ newLearner.InBox ∧
    newLearner.tuning.DefaultRates ∧ ¬ |(newLearner.update 1000 1 2).2.predict 1 - newLearner.predict 1| ≤
      newLearner.stepFrac * 2 ^ min newLearner.clipStreak 6 * newLearner.predict 1 :=
  ⟨rfl, rfl, newLearner_inBox, newLearner_rates, by decide +kernel⟩

end TrustRegion

end DualTimescaleNlms

end Dio.Scheduler
