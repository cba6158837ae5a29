/-
The learner on a steady workload: requests of one size and one latency, none of them contended. The error shrinks by
the same factor with each of them, exactly, whatever else happens to the worker meanwhile.
-/
import DioServe.Scheduler.Descent
import DioServe.Scheduler.Observed
import Mathlib.Tactic.LinearCombination

namespace Dio.Scheduler

open Data Effect Stats

variable {K : Type} [Field K] [LinearOrder K]

namespace DualTimescaleNlms

/-! ## One sample -/

/-- The distance that the parameters still go, for each unit of their rate, until the prediction is `actualMs`. -/
def ahead (m : DualTimescaleNlms K) (actualMs : K) (tokens : Int) : K :=
  (actualMs - m.predict tokens) / m.tuning.gain

/-- The parameters are within their bounds, here and where they are headed. -/
structure Headed (m : DualTimescaleNlms K) (actualMs : K) (tokens : Int) : Prop where
  learns : m.frozen = false
  gain : 0 < m.tuning.gain ∧ m.tuning.gain ≤ 1
  fast : m.fastSlope ∈ Set.Icc (1 / 10) m.slopeMax
  fastEnd : m.fastSlope + m.muFast * (m.ahead actualMs tokens / tokenCount tokens) ∈ Set.Icc (1 / 10) m.slopeMax
  slow : m.dual = true → m.slowSlope ∈ Set.Icc (1 / 10) m.slopeMax
  slowEnd : m.dual = true →
    m.slowSlope + m.muSlow * (m.ahead actualMs tokens / tokenCount tokens) ∈ Set.Icc (1 / 10) m.slopeMax
  intercept : m.intercept ∈ Set.Icc (1 / 10) m.interceptMax
  interceptEnd : m.intercept + m.muBias * m.ahead actualMs tokens ∈ Set.Icc (1 / 10) m.interceptMax

theorem clamp_of_mem {hi x : K} (h : x ∈ Set.Icc (1 / 10) hi) : clamp hi x = x := by
  unfold clamp
  rw [min_eq_right h.2, max_eq_right h.1]

variable [IsStrictOrderedRing K]

/-- A point on the way from one value within the bounds to another is within the bounds. -/
theorem mem_on_the_way {lo hi x d g : K} (hx : x ∈ Set.Icc lo hi) (hd : x + d ∈ Set.Icc lo hi) (h0 : 0 ≤ g) (h1 : g ≤ 1) :
    x + g * d ∈ Set.Icc lo hi := by
  have hmean : x + g * d = (1 - g) * x + g * (x + d) := by ring
  have hg : 0 ≤ 1 - g := sub_nonneg.2 h1
  rw [hmean]
  constructor
  · have h₁ := mul_le_mul_of_nonneg_left hx.1 hg
    have h₂ := mul_le_mul_of_nonneg_left hd.1 h0
    linarith
  · have h₁ := mul_le_mul_of_nonneg_left hx.2 hg
    have h₂ := mul_le_mul_of_nonneg_left hd.2 h0
    linarith

section Sample

variable {m : DualTimescaleNlms K} {actualMs : K} {tokens : Int} {inflight : Nat}

/-- The parameters after a sample that is taken at face value: a part of the way, and not clamped. -/
structure Follows (m m' : DualTimescaleNlms K) (actualMs : K) (tokens : Int) : Prop where
  fast : m'.fastSlope = m.fastSlope + m.tuning.gain * (m.muFast * (m.ahead actualMs tokens / tokenCount tokens))
  slow : m.dual = true →
    m'.slowSlope = m.slowSlope + m.tuning.gain * (m.muSlow * (m.ahead actualMs tokens / tokenCount tokens))
  intercept : m'.intercept = m.intercept + m.tuning.gain * (m.muBias * m.ahead actualMs tokens)
  tuning : m'.tuning = m.tuning

theorem Headed.follows (h : m.Headed actualMs tokens) (htrusted : m.trusted inflight = true) :
    m.Follows (m.update actualMs tokens inflight).2 actualMs tokens := by
  have hsteps := update_steps h.learns actualMs tokens inflight
  have hcap : m.stepCap (m.predict tokens) tokens inflight = none := if_pos htrusted
  have herr : m.updateErr (m.predict tokens) (actualMs - m.predict tokens) inflight = actualMs - m.predict tokens :=
    if_pos htrusted
  rw [hcap, herr] at hsteps
  have hgain : m.tuning.gain ≠ 0 := h.gain.1.ne'
  have hahead : actualMs - m.predict tokens = m.tuning.gain * m.ahead actualMs tokens := by
    unfold ahead
    rw [mul_div_cancel₀ _ hgain]
  have hslope : ∀ mu : K, capped none (mu * ((actualMs - m.predict tokens) / tokenCount tokens)) =
      m.tuning.gain * (mu * (m.ahead actualMs tokens / tokenCount tokens)) := by
    intro mu
    show mu * ((actualMs - m.predict tokens) / tokenCount tokens) = _
    rw [hahead]
    ring
  refine ⟨?_, fun hdual => ?_, ?_, update_tuning m actualMs tokens inflight⟩
  · rw [hsteps.fast, hslope]
    exact clamp_of_mem (mem_on_the_way h.fast h.fastEnd h.gain.1.le h.gain.2)
  · rw [hsteps.slow, if_pos hdual, hslope]
    exact clamp_of_mem (mem_on_the_way (h.slow hdual) (h.slowEnd hdual) h.gain.1.le h.gain.2)
  · have hbias : m.muBias * (actualMs - m.predict tokens) = m.tuning.gain * (m.muBias * m.ahead actualMs tokens) := by
      rw [hahead]
      ring
    rw [hsteps.intercept, hbias]
    exact clamp_of_mem (mem_on_the_way h.intercept h.interceptEnd h.gain.1.le h.gain.2)

/-- The prediction moves by its share of the error. -/
theorem Follows.predict {m' : DualTimescaleNlms K} (hgain : m.tuning.gain ≠ 0) (h : m.Follows m' actualMs tokens) :
    m'.predict tokens = m.predict tokens + m.tuning.gain * (actualMs - m.predict tokens) := by
  have hx : (tokenCount tokens : K) ≠ 0 := (tokenCount_pos tokens).ne'
  have hdual : m'.dual = m.dual := congrArg Tuning.dual h.tuning
  have hblend : m'.blend = m.blend := congrArg Tuning.blend h.tuning
  have hahead : actualMs - m.predict tokens = m.tuning.gain * m.ahead actualMs tokens := by
    unfold ahead
    rw [mul_div_cancel₀ _ hgain]
  rw [hahead]
  unfold DualTimescaleNlms.predict effectiveSlope
  rw [hdual, hblend, h.fast, h.intercept]
  have hdiv : ∀ a : K, a / tokenCount tokens * tokenCount tokens = a := fun a => div_mul_cancel₀ a hx
  generalize hG : m.tuning.gain = g
  cases hd : m.dual with
  | false =>
    have hg : g = m.muFast + m.muBias := by
      rw [← hG]
      show (if m.dual then _ else _) = _
      rw [hd]
      rfl
    simp only [Bool.false_eq_true, if_false]
    linear_combination (g * m.muFast) * hdiv (m.ahead actualMs tokens) - g * m.ahead actualMs tokens * hg
  | true =>
    have hg : g = m.blend * m.muFast + (1 - m.blend) * m.muSlow + m.muBias := by
      rw [← hG]
      show (if m.dual then _ else _) = _
      rw [hd]
      rfl
    rw [h.slow hd, hG]
    simp only [if_true]
    linear_combination (g * (m.blend * m.muFast + (1 - m.blend) * m.muSlow)) * hdiv (m.ahead actualMs tokens) -
      g * m.ahead actualMs tokens * hg

/-- After the sample, the parameters are headed where they were. -/
theorem Headed.next {m' : DualTimescaleNlms K} (h : m.Headed actualMs tokens) (hf : m.Follows m' actualMs tokens) :
    m'.Headed actualMs tokens := by
  have hgain : m.tuning.gain ≠ 0 := h.gain.1.ne'
  have hdual : m'.dual = m.dual := congrArg Tuning.dual hf.tuning
  have hslopeMax : m'.slopeMax = m.slopeMax := congrArg Tuning.slopeMax hf.tuning
  have hinterceptMax : m'.interceptMax = m.interceptMax := congrArg Tuning.interceptMax hf.tuning
  have hmuFast : m'.muFast = m.muFast := congrArg Tuning.muFast hf.tuning
  have hmuSlow : m'.muSlow = m.muSlow := congrArg Tuning.muSlow hf.tuning
  have hmuBias : m'.muBias = m.muBias := congrArg Tuning.muBias hf.tuning
  have hahead : m'.ahead actualMs tokens = (1 - m.tuning.gain) * m.ahead actualMs tokens := by
    unfold ahead
    rw [hf.tuning, hf.predict hgain]
    ring
  constructor
  · exact (congrArg Tuning.frozen hf.tuning).trans h.learns
  · rw [hf.tuning]
    exact h.gain
  · rw [hf.fast, hslopeMax]
    exact mem_on_the_way h.fast h.fastEnd h.gain.1.le h.gain.2
  · have hend : m'.fastSlope + m'.muFast * (m'.ahead actualMs tokens / tokenCount tokens) =
        m.fastSlope + m.muFast * (m.ahead actualMs tokens / tokenCount tokens) := by
      rw [hf.fast, hmuFast, hahead]
      ring
    rw [hend, hslopeMax]
    exact h.fastEnd
  · intro hd
    rw [hdual] at hd
    rw [hf.slow hd, hslopeMax]
    exact mem_on_the_way (h.slow hd) (h.slowEnd hd) h.gain.1.le h.gain.2
  · intro hd
    rw [hdual] at hd
    have hend : m'.slowSlope + m'.muSlow * (m'.ahead actualMs tokens / tokenCount tokens) =
        m.slowSlope + m.muSlow * (m.ahead actualMs tokens / tokenCount tokens) := by
      rw [hf.slow hd, hmuSlow, hahead]
      ring
    rw [hend, hslopeMax]
    exact h.slowEnd hd
  · rw [hf.intercept, hinterceptMax]
    exact mem_on_the_way h.intercept h.interceptEnd h.gain.1.le h.gain.2
  · have hend : m'.intercept + m'.muBias * m'.ahead actualMs tokens = m.intercept + m.muBias * m.ahead actualMs tokens := by
      rw [hf.intercept, hmuBias, hahead]
      ring
    rw [hend, hinterceptMax]
    exact h.interceptEnd

end Sample

/-- The error after `n` samples, from the one before the first. -/
structure Converging (start m : DualTimescaleNlms K) (actualMs : K) (tokens : Int) (n : Nat) : Prop where
  headed : m.Headed actualMs tokens
  tuning : m.tuning = start.tuning
  error : actualMs - m.predict tokens = (1 - start.tuning.gain) ^ n * (actualMs - start.predict tokens)

theorem Converging.sample {start m : DualTimescaleNlms K} {actualMs : K} {tokens : Int} {n inflight : Nat}
    (h : Converging start m actualMs tokens n) (htrusted : m.trusted inflight = true) :
    Converging start (m.update actualMs tokens inflight).2 actualMs tokens (n + 1) := by
  have hf := h.headed.follows htrusted
  refine ⟨h.headed.next hf, hf.tuning.trans h.tuning, ?_⟩
  rw [hf.predict h.headed.gain.1.ne', h.tuning, pow_succ]
  linear_combination (1 - start.tuning.gain) * h.error

end DualTimescaleNlms

/-! ## Runs -/

section Run

/-- The learner of a worker that was just registered, whatever its tier and memory. -/
def freshLearner (cfg : Cfg K) : DualTimescaleNlms K := (newWorker cfg "" 0 none).nlms

/-- A success has `tokens` tokens of prompt, took `actualMs`, and is one that the learner takes at face value. -/
def Steady (actualMs : K) (tokens : Int) (v : View K) (h : Happening K) : Prop :=
  ∀ e2eMs t, h = .finished e2eMs t true →
    e2eMs = actualMs ∧ t = tokens ∧ ∀ x ∈ v.worker, x.nlms.trusted (x.nlms.inflightLog.headD 1) = true

/-- The registered worker has converged as far as `seen` says. -/
def View.Converging (cfg : Cfg K) (actualMs : K) (tokens : Int) (v : View K) (seen : List K) : Prop :=
  ∀ x ∈ v.worker, DualTimescaleNlms.Converging (freshLearner cfg) x.nlms actualMs tokens seen.length

variable {cfg : Cfg K} {actualMs : K} {tokens : Int}

theorem Booked.converging {start m m' : DualTimescaleNlms K} {n : Nat} (hb : Booked m m')
    (h : DualTimescaleNlms.Converging start m actualMs tokens n) :
    DualTimescaleNlms.Converging start m' actualMs tokens n := by
  rw [hb.rest]
  have hh := h.headed
  exact ⟨⟨hh.learns, hh.gain, hh.fast, hh.fastEnd, hh.slow, hh.slowEnd, hh.intercept, hh.interceptEnd⟩, h.tuning, h.error⟩

theorem converging_newWorker (hfresh : (freshLearner cfg).Headed actualMs tokens) (tier : String) (total : K)
    (free : Option K) :
    DualTimescaleNlms.Converging (freshLearner cfg) (newWorker cfg tier total free).nlms actualMs tokens 0 := by
  refine ⟨?_, rfl, ?_⟩
  · exact ⟨hfresh.learns, hfresh.gain, hfresh.fast, hfresh.fastEnd, hfresh.slow, hfresh.slowEnd, hfresh.intercept,
      hfresh.interceptEnd⟩
  · rw [pow_zero, one_mul]
    rfl

variable [IsStrictOrderedRing K]

/-- Whatever happens to the worker, the error is as small as the count of its successes says. -/
theorem View.Converging.exec (hfresh : (freshLearner cfg).Headed actualMs tokens) {v : View K} {seen : List K}
    (h : v.Converging cfg actualMs tokens seen) {ev : Happening K} (hev : Steady actualMs tokens v ev) :
    (ev.exec cfg v).Converging cfg actualMs tokens (ev.observe seen) := by
  intro x' hx'
  rcases record_exec hx' with ⟨tier, total, free, rfl, rfl⟩ | ⟨x, hx, ⟨e2eMs, t, rfl, rfl⟩ | ⟨hquiet, f, hf, rfl⟩⟩
  · exact converging_newWorker hfresh tier total free
  · obtain ⟨rfl, rfl, htrusted⟩ := hev _ _ rfl
    let popped : DualTimescaleNlms K := { x.nlms with inflightLog := x.nlms.inflightLog.tail }
    have hpopped : Booked x.nlms popped := ⟨rfl⟩
    have hface : popped.trusted (x.nlms.inflightLog.headD 1) = true := htrusted x hx
    have hlearned := (hpopped.converging (h x hx)).sample hface
    show DualTimescaleNlms.Converging _ (DualTimescaleNlms.free _) _ _ (seen ++ [e2eMs]).length
    rw [List.length_append]
    exact (booked_free _).converging hlearned
  · rw [observe_quiet hquiet]
    exact hf.converging (h x hx)

theorem View.Converging.play (hfresh : (freshLearner cfg).Headed actualMs tokens) :
    ∀ {evs : List (Happening K)} {v : View K} {seen : List K}, v.Converging cfg actualMs tokens seen →
      Trace.Allowed (Happening.exec cfg) (Steady actualMs tokens) v evs →
        (Trace.play (Happening.exec cfg) v evs).Converging cfg actualMs tokens (Trace.play Happening.observe seen evs)
  | [], _, _, h, _ => h
  | ev :: evs, v, seen, h, hev => by
    show (Trace.play _ (ev.exec cfg v) evs).Converging cfg actualMs tokens (Trace.play _ (ev.observe seen) evs)
    exact View.Converging.play hfresh (h.exec hfresh hev.1) hev.2

variable [FloorRing K]

/-- In a run where the successes of a worker all have the same prompt length and latency and none was contended, the
error of its prediction is the initial one times `1 - gain`, once for each of them since it was registered, exactly:
whatever happens to the other workers, and to this one otherwise. -/
theorem steady_worker_converges (hfresh : (freshLearner cfg).Headed actualMs tokens) {w : String} {ms : List (Move K)}
    (hsteady : Trace.Allowed (fun m s => m.onSched cfg s)
      (fun s m => ∀ h ∈ m.happening cfg w s, Steady actualMs tokens (s.view w) h) .init ms) {x : Worker K}
    (hx : Dict.get? (played cfg .init ms).predictors w = some x) :
    actualMs - x.nlms.predict tokens = (1 - (freshLearner cfg).tuning.gain) ^ (observed cfg w .init ms).length *
      (actualMs - (freshLearner cfg).predict tokens) := by
  have hsteady' : Trace.Allowed (Happening.exec cfg) (Steady actualMs tokens) (State.init.view w)
      (happenings cfg w .init ms) :=
    Trace.allowed_shadows (fun s => s.view w) (Move.happening cfg w) (Happening.exec cfg)
      (fun s m => view_onSched cfg s m w) hsteady
  have hnone : (State.init.view w).Converging cfg actualMs tokens [] := fun x hx => by cases hx
  have hplay := hnone.play hfresh hsteady'
  rw [← view_played] at hplay
  exact (hplay x hx).error

end Run

/-! ## Examples -/

def steadyCfg : Cfg ℚ := { defaultCfg with strategy := .roundRobin }

theorem headed_steadyCfg : (freshLearner steadyCfg).Headed 700 100 := by
  constructor <;> decide +kernel

/-- One request of 700 ms and 100 tokens, and then one that was given up. -/
def steadyRun : List (Move ℚ) :=
  [.register oneWorker, .pick ⟨"hi", "small", some 100, none⟩, .feedback ⟨0, "gpu0", 1, 0⟩ 700 100 true,
    .pick ⟨"hi", "small", some 100, none⟩, .release ⟨1, "gpu0", 1, 0⟩]

theorem steady_steadyRun : Trace.Allowed (fun m s => m.onSched steadyCfg s)
    (fun s m => ∀ h ∈ m.happening steadyCfg "gpu0" s, Steady 700 100 (s.view "gpu0") h) .init steadyRun := by
  refine ⟨?_, ?_, ?_, ?_, ?_, trivial⟩
  · rintro _ ⟨⟩ _ _ ⟨⟩
  · rintro _ ⟨⟩ _ _ ⟨⟩
  · rintro _ ⟨⟩ _ _ ⟨⟩
    refine ⟨rfl, rfl, fun x hx => ?_⟩
    rw [← Option.some.inj hx]
    rfl
  · rintro _ ⟨⟩ _ _ ⟨⟩
  · rintro _ ⟨⟩ _ _ ⟨⟩

theorem steady_worker_converges_gpu0 : ∃ x,
    Dict.get? (played steadyCfg .init steadyRun).predictors "gpu0" = some x ∧
      700 - x.nlms.predict 100 = (1 - 87 / 1000) * (700 - 350) := by
  have hsome : (Dict.get? (played steadyCfg .init steadyRun).predictors "gpu0").isSome := rfl
  obtain ⟨x, hx⟩ := Option.isSome_iff_exists.1 hsome
  have hobserved : observed steadyCfg "gpu0" .init steadyRun = [700] := rfl
  have hpredict : (freshLearner steadyCfg).predict 100 = 350 := by decide +kernel
  have hgain : (freshLearner steadyCfg).tuning.gain = 87 / 1000 := by decide +kernel
  have herror := steady_worker_converges headed_steadyCfg steady_steadyRun hx
  rw [hobserved, hpredict, hgain] at herror
  exact ⟨x, hx, herror.trans (by norm_num)⟩

end Dio.Scheduler
