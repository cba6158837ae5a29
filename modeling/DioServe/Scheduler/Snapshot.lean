/-
What the scheduler tells about itself (`scheduler.py`, `snapshot` and `metrics`): each worker's learner
and the admission counters, as the members of a JSON object. The configured blend is not among them; a
reader who assumes one is right about every worker of every run that was configured with it.
-/
import DioServe.Scheduler.Bounds
import DioServe.Scheduler.Traffic

namespace Dio.Scheduler

open Data

/-! ## Snapshots -/

/-- A member of a snapshot. -/
inductive Metric (K : Type)
  | null
  | num (x : K)
  | count (n : Nat)
  | flag (b : Bool)
  | text (s : String)

abbrev Snapshot (K : Type) := Dict String (Metric K)

/-- The members of `metrics()` that its readers look at. -/
structure Metrics (K : Type) where
  workers : Dict String (Snapshot K)
  admission : Snapshot K

variable {K : Type} [Field K] [LinearOrder K]

/-- `n / d`, and 0 of nothing. -/
def ratio (x : K) (n : Nat) : K := if n = 0 then 0 else x / (n : K)

/-- `DualTimescaleNLMS.snapshot`. -/
def DualTimescaleNlms.snapshot (m : DualTimescaleNlms K) : Snapshot K :=
  [("fast_slope", .num m.fastSlope), ("slow_slope", .num m.slowSlope), ("intercept", .num m.intercept),
    ("avg_latency_ms", .num m.avgLatency), ("updates", .count m.updateCount),
    ("clipped_updates", .count m.clippedUpdates), ("contended_updates", .count m.contendedUpdates),
    ("robust", .flag m.robust), ("mode", .text m.mode), ("mae_ms", .num (ratio m.sumAbs m.updateCount)),
    ("mape_pct", .num (ratio m.sumRel m.updateCount * 100)), ("pending", .count m.pending),
    ("free_vram_mb", .num m.freeVramMb), ("tier", .text m.tier), ("healthy", .flag m.healthy),
    ("frozen", .flag m.frozen)]

/-- `AdmissionStats.snapshot`. -/
def AdmissionStats.snapshot (a : AdmissionStats K) (sloMs : K) (admissionEnabled : Bool) (extra : Snapshot K) :
    Snapshot K :=
  let attempts := a.completedTotal + a.failedTotal
  [("admitted", .count a.admitted), ("rejected_slo", .count a.rejectedSlo), ("rejected_vram", .count a.rejectedVram),
    ("rejected_no_worker", .count a.rejectedNoWorker), ("rejected_slo_suppressed", .count a.rejectedSloSuppressed),
    ("completed_under_slo", .count a.completedUnderSlo), ("completed_over_slo", .count a.completedOverSlo),
    ("completed_total", .count a.completedTotal), ("failed_total", .count a.failedTotal), ("attempts", .count attempts),
    ("failure_rate", .num (ratio a.failedTotal attempts)), ("goodput_fraction", .num a.goodputFraction),
    ("avg_e2e_ms", .num (ratio a.sumE2eMs a.completedTotal)), ("slo_ms", .num sloMs),
    ("admission_enabled", .flag admissionEnabled), ("would_reject_absolute", .count a.wouldRejectAbsolute),
    ("would_admit_absolute", .count a.wouldAdmitAbsolute),
    ("absolute_vs_active_disagree", .count a.absoluteVsActiveDisagree),
    ("absolute_disagree_frac", .num (ratio a.absoluteVsActiveDisagree (a.wouldRejectAbsolute + a.wouldAdmitAbsolute)))]
    ++ extra

variable [FloorRing K]

/-- `metrics`. -/
def metrics (cfg : Cfg K) (s : State K) : Metrics K where
  workers := s.predictors.map fun p => (p.1, p.2.nlms.snapshot)
  admission := s.admission.snapshot cfg.sloMs (!cfg.admissionOff)
    [("admission_mode", .text cfg.admissionMode.name),
      ("empirical_p_ms", if s.recentE2e = [] then .null else .num (observedTail cfg s.recentE2e)),
      ("recent_e2e_n", .count s.recentE2e.length)]

/-! ## What is not in a snapshot -/

section Moves

variable {cfg : Cfg K} {P : Model K → Prop}

/-- A property of the model parameters that new workers have and updates keep is kept by every move. -/
theorem AllNlms.move (hupd : ∀ (m : DualTimescaleNlms K) e t n, P m.model → P (m.update e t n).2.model)
    (hnew : ∀ tier total free, P (newWorker cfg tier total free).nlms.model) {s : State K} (m : Move K)
    (h : AllNlms (fun m => P m.model) s) : AllNlms (fun m => P m.model) (m.onSched cfg s) := by
  cases m with
  | register r =>
    intro p hp
    rcases Dict.mem_set hp with rfl | hp
    · exact hnew _ _ _
    · exact h p hp
  | unregister w => exact fun p hp => h p (List.mem_of_mem_filter hp)
  | pick a => exact h.pick a
  | feedback t e n ok => exact h.feedback hupd t.worker e n ok
  | release t => exact h.release t.worker
  | setHealthy w ok => exact h.setHealthy w ok
  | setVram w free => exact h.onNlms fun _ hm => hm
  | setEngineMetrics w snap => exact h.setEngineMetrics w snap
  | noteFailure w n => exact h.noteFailure w n
  | noteSuccess w => exact h.congr rfl
  | resetStats => exact h.congr rfl

end Moves

/-- What a reader of the snapshots assumes: the configured blend, one slope where there is one timescale,
and no parameter at zero unless it was configured so. -/
structure Uniform (cfg : Cfg K) (m : Model K) : Prop where
  blend : m.blend = cfg.blend
  single : m.dual = false → m.slowSlope = m.fastSlope
  slopes : cfg.initialSlope ≠ 0 → m.fastSlope ≠ 0 ∧ m.slowSlope ≠ 0
  intercept : cfg.initialIntercept ≠ 0 → m.intercept ≠ 0

variable [IsStrictOrderedRing K] {cfg : Cfg K}

omit [FloorRing K] in
theorem clamp_ne_zero (hi x : K) : DualTimescaleNlms.clamp hi x ≠ 0 := by
  have hpos : (0 : K) < 1 / 10 := by positivity
  exact (lt_of_lt_of_le hpos (le_max_left _ _)).ne'

omit [FloorRing K] [IsStrictOrderedRing K] in
theorem Uniform.countClip {m : DualTimescaleNlms K} (h : Uniform cfg m.model) (pred err : K) (n : Nat) :
    Uniform cfg (m.countClip pred err n).model := by
  unfold DualTimescaleNlms.countClip
  split
  · exact h
  · split
    · exact h
    · split <;> exact h

omit [FloorRing K] in
/-- A single timescale takes the same step twice. -/
theorem Uniform.descend {m : DualTimescaleNlms K} (h : Uniform cfg m.model) (cap : Option K) (err : K) (tokens : Int) :
    Uniform cfg (m.descend cap err tokens).model where
  blend := h.blend
  single hdual := by
    have hm : m.dual = false := hdual
    unfold DualTimescaleNlms.descend
    simp only [DualTimescaleNlms.model, hm, Bool.false_eq_true, if_false]
  slopes _ := ⟨clamp_ne_zero _ _, clamp_ne_zero _ _⟩
  intercept _ := clamp_ne_zero _ _

omit [FloorRing K] in
theorem Uniform.update (m : DualTimescaleNlms K) (e : K) (t : Int) (n : Nat) (h : Uniform cfg m.model) :
    Uniform cfg (m.update e t n).2.model := by
  have hlearn : Uniform cfg ((m.tally e t).learn e t n).model := by
    unfold DualTimescaleNlms.learn
    split
    · exact h
    · exact Uniform.descend (Uniform.countClip (m := m.tally e t) h _ _ n) _ _ t
  exact hlearn

omit [FloorRing K] [IsStrictOrderedRing K] [LinearOrder K] in
theorem Uniform.newWorker (hs : cfg.strategy ≠ .static) (tier : String) (total : K) (free : Option K) :
    Uniform cfg (newWorker cfg tier total free).nlms.model := by
  unfold Scheduler.newWorker DualTimescaleNlms.model
  constructor
  · rfl
  · intro _; rfl
  · intro hne
    dsimp only
    simp only [hs, if_false]
    exact ⟨hne, hne⟩
  · intro hne
    dsimp only
    simp only [hs, if_false]
    exact hne

/-- Whatever a scheduler has been through, its workers are as a reader of their snapshots assumes. -/
theorem Ledger.Reached.uniform (hs : cfg.strategy ≠ .static) {ok : Ledger K → Move K → Prop} {l : Ledger K}
    (h : l.Reached cfg ok) : AllNlms (fun m => Uniform cfg m.model) l.sched :=
  h.invariant (P := fun l => AllNlms (fun m => Uniform cfg m.model) l.sched) (fun _ hp => by cases hp)
    fun _ m hl _ _ => AllNlms.move (fun m e t n hm => Uniform.update m e t n hm) (Uniform.newWorker hs) m hl

end Dio.Scheduler
