/-
The learner of dio-serve against that of the Go manager it was ported from. Both are the plain learner below: the
manager while the worker is not short of memory, dio-serve without its robust guard and while no parameter reaches a
bound that only one of the two has. So what they learn from the same lessons is the same, to the last digit.
-/
import DioServe.Manager.Server
import DioServe.Scheduler.Convergence

namespace Dio.Manager

open Data Effect

variable {K : Type}

/-! ## The plain learner -/

/-- Two slopes, an intercept and the error statistics. -/
structure Nlms (K : Type) where
  dual : Bool
  fastSlope : K
  slowSlope : K
  intercept : K
  averageLatency : K
  sumAbs : K
  sumRel : K
  sumSq : K
  updateCount : Nat

/-- What a learner is told of its worker. -/
inductive Lesson (K : Type)
  | joined
  | taught (e2eMs : K) (tokens : Int)
  | forgotten

section Nlms

variable [Field K] [LinearOrder K]

namespace Nlms

def fresh (dual : Bool) : Nlms K := ⟨dual, initialSlope, initialSlope, initialIntercept, 0, 0, 0, 0, 0⟩

def predict (c : Nlms K) (tokens : Int) : K :=
  (if c.dual then fastSlowBlend * c.fastSlope + (1 - fastSlowBlend) * c.slowSlope else c.fastSlope) * tokens + c.intercept

/-- A normalised gradient step on the error of the prediction, and the statistics of the error. -/
def teach (c : Nlms K) (e2eMs : K) (tokens : Int) : Nlms K :=
  let err := e2eMs - c.predict tokens
  let fast := c.fastSlope + muFast * (err / tokens)
  { dual := c.dual
    fastSlope := max initialSlope fast
    slowSlope := max initialSlope (if c.dual then c.slowSlope + muSlow * (err / tokens) else fast)
    intercept := max (1 / 10) (c.intercept + muBias * err)
    averageLatency := movingAverage c.averageLatency e2eMs
    sumAbs := c.sumAbs + |err|
    sumRel := c.sumRel + |err| / max e2eMs 1
    sumSq := c.sumSq + err * err
    updateCount := c.updateCount + 1 }

/-- Back to the priors; the statistics stay. -/
def forget (c : Nlms K) : Nlms K :=
  { c with fastSlope := initialSlope, slowSlope := initialSlope, intercept := initialIntercept }

end Nlms

def Lesson.exec (dual : Bool) (l : Lesson K) (c : Nlms K) : Nlms K :=
  match l with
  | .joined => .fresh dual
  | .taught e2eMs tokens => c.teach e2eMs tokens
  | .forgotten => c.forget

/-- What the learner has learned. -/
def curriculum (dual : Bool) (ls : List (Lesson K)) : Nlms K := Trace.play (Lesson.exec dual) (.fresh dual) ls

/-- A request takes time and has a token at least. -/
def Lesson.Sound : Lesson K → Prop
  | .taught e2eMs tokens => 0 < e2eMs ∧ 1 ≤ tokens
  | _ => True

theorem Lesson.Sound.averageLatency [IsStrictOrderedRing K] {dual : Bool} {l : Lesson K} (hl : l.Sound) {c : Nlms K}
    (h : 0 ≤ c.averageLatency) : 0 ≤ (l.exec dual c).averageLatency := by
  cases l with
  | joined => exact le_rfl
  | taught e2eMs tokens => exact PerWorkerPredictor.movingAverage_nonneg h hl.1.le
  | forgotten => exact h

end Nlms

/-! ## The manager's learner -/

section Manager

variable [Field K] [LinearOrder K]

def PerWorkerPredictor.core (p : PerWorkerPredictor K) : Nlms K :=
  ⟨p.useDualSlope, p.fastSlope, p.slowSlope, p.intercept, p.averageLatency, p.sumAbsErr, p.sumRelErr, p.sumSquaredError,
    p.updateCount⟩

/-- Both slopes learn. -/
def Env.isDual (env : Env K) : Bool := !env.nlmsSingle && !env.ablation.singleTimescale

omit [LinearOrder K] in
theorem core_newPredictor {env : Env K} (henv : env.strategy ≠ .static) (tier : String) (vramMb : Int) :
    (Scheduler.newPredictor env tier vramMb).frozen = false ∧
      (Scheduler.newPredictor env tier vramMb).core = .fresh env.isDual := by
  refine ⟨decide_eq_false henv, ?_⟩
  unfold Scheduler.newPredictor PerWorkerPredictor.core Nlms.fresh Env.isDual
  simp [henv]

/-- A sample of a worker that is not short of memory. -/
theorem core_update {p : PerWorkerPredictor K} (hlearns : p.frozen = false) (e2eMs : K) {tokens : Int} (htokens : 1 ≤ tokens)
    {vramMb : Int} (hvram : vramSoftLimitMb ≤ vramMb) :
    (p.update e2eMs tokens vramMb).frozen = false ∧ (p.update e2eMs tokens vramMb).core = p.core.teach e2eMs tokens := by
  have hpredicted : p.predicted tokens vramMb = p.core.predict tokens := by
    unfold PerWorkerPredictor.predicted
    rw [if_neg (not_lt.2 hvram), mul_one]
    rfl
  have hsome : (0 : Int) < tokens := by omega
  have hgo : p.update e2eMs tokens vramMb = ((((p.record e2eMs (e2eMs - p.core.predict tokens)).descend
      (e2eMs - p.core.predict tokens) tokens).floored).noteRatio (e2eMs / (p.core.predict tokens + 1 / 10 ^ 9))).noteLatency
        e2eMs := by
    have hfrozen : ¬ (p.record e2eMs (e2eMs - p.predicted tokens vramMb)).frozen = true := by
      show ¬ p.frozen = true
      rw [hlearns]
      exact Bool.false_ne_true
    unfold PerWorkerPredictor.update
    dsimp only
    rw [if_neg hfrozen, hpredicted]
  have hdescend : ∀ (q : PerWorkerPredictor K) (err : K), q.descend err tokens =
      { q with
        fastSlope := q.fastSlope + muFast * (err / tokens)
        slowSlope := if q.useDualSlope then q.slowSlope + muSlow * (err / tokens) else q.fastSlope + muFast * (err / tokens)
        intercept := q.intercept + muBias * err } := by
    intro q err
    unfold PerWorkerPredictor.descend
    dsimp only
    rw [if_pos hsome, if_pos hsome]
  rw [hgo, hdescend]
  exact ⟨hlearns, rfl⟩

variable [FloorRing K]

/-- What a move is to the learners of the worker `w`. -/
def Move.lesson (w : String) : Move K → Option (Lesson K)
  | .register r => if r.workerId = w then some .joined else none
  | .reply t req (.predicted latencyMs promptTokens) =>
    if t.worker = w ∧ latencyMs > 0 then
      some (.taught latencyMs (if promptTokens > 0 then promptTokens else req.data.length / 4))
    else none
  | .resetWorker id => if id = w then some .forgotten else none
  | _ => none

/-- The lessons of the worker `w` in a run of the manager. -/
def lessons (w : String) (ms : List (Move K)) : List (Lesson K) := ms.filterMap (Move.lesson w)

/-- The worker `w`, when it is registered, has learned `c`. -/
def Server.HasLearned (l : Server K) (w : String) (c : Nlms K) : Prop :=
  ∀ e, l.sched.workers.get? w = some e → e.nlms.frozen = false ∧ e.nlms.core = c

/-- The worker `w`, when it is registered, has as much memory free as the soft limit asks for. -/
def Server.Roomy (w : String) (l : Server K) : Prop :=
  ∀ e, l.sched.workers.get? w = some e → vramSoftLimitMb ≤ e.worker.lastKnownVram

theorem feedbackLoop_entry {env : Env K} {s : Scheduler K} {id w : String} {e2eMs : K} {tokens : Int} {e' : Entry K}
    (h : (s.feedbackLoop env id e2eMs tokens).workers.get? w = some e') : ∃ e, s.workers.get? w = some e ∧
      e'.nlms = (if id = w ∧ e2eMs > 0 then e.nlms.update e2eMs tokens e.worker.lastKnownVram else e.nlms) := by
  have hlearned : ∀ e'', (if e2eMs > 0 then s.complete env id e2eMs tokens else s).workers.get? w = some e'' →
      ∃ e, s.workers.get? w = some e ∧
        e''.nlms = (if id = w ∧ e2eMs > 0 then e.nlms.update e2eMs tokens e.worker.lastKnownVram else e.nlms) := by
    intro e'' he
    by_cases hpos : e2eMs > 0
    · rw [if_pos hpos] at he
      unfold Scheduler.complete at he
      cases hs : s.workers.get? id with
      | none =>
        rw [hs] at he
        refine ⟨e'', he, (if_neg fun hboth => ?_).symm⟩
        rw [hboth.1, show s.workers.get? w = some e'' from he] at hs
        cases hs
      | some e =>
        rw [hs] at he
        dsimp only at he
        rw [Dict.get?_modify] at he
        by_cases hw : w = id
        · subst hw
          rw [if_pos rfl, hs] at he
          cases he
          exact ⟨e, hs, (if_pos ⟨rfl, hpos⟩).symm⟩
        · rw [if_neg hw] at he
          exact ⟨e'', he, (if_neg fun hboth => hw hboth.1.symm).symm⟩
    · rw [if_neg hpos] at he
      exact ⟨e'', he, (if_neg fun hboth => hpos hboth.2).symm⟩
  unfold Scheduler.feedbackLoop Scheduler.onWorker at h
  dsimp only at h
  rw [Dict.get?_modify] at h
  by_cases hw : w = id
  · rw [if_pos hw] at h
    obtain ⟨e'', he, rfl⟩ := Option.map_eq_some_iff.1 h
    exact hlearned e'' he
  · rw [if_neg hw] at h
    exact hlearned e' h

variable [IsStrictOrderedRing K]

/-- One move of the manager: the learner has had its lesson. -/
theorem Server.HasLearned.exec {env : Env K} (henv : env.strategy ≠ .static) {l : Server K} {w : String} {c : Nlms K}
    (h : l.HasLearned w c) (hroomy : l.Roomy w) {m : Move K} (hsound : ∀ n ∈ m.lesson w, n.Sound) :
    (m.exec env l).HasLearned w ((m.lesson w).elim c fun n => n.exec env.isDual c) := by
  have hmodify : ∀ {id : String} {f : Entry K → Entry K} {e' : Entry K}, (∀ e, (f e).nlms = e.nlms) →
      (l.sched.workers.modify id f).get? w = some e' → e'.nlms.frozen = false ∧ e'.nlms.core = c := by
    intro id f e' hf he
    rw [Dict.get?_modify] at he
    split at he
    · obtain ⟨e, hknown, rfl⟩ := Option.map_eq_some_iff.1 he
      rw [hf]
      exact h e hknown
    · exact h e' he
  intro e' he
  cases m with
  | register r =>
    have hset : (Dict.set l.sched.workers r.workerId _).get? w = some e' := he
    unfold Move.lesson
    dsimp only
    rw [Dict.get?_set] at hset
    by_cases hw : r.workerId = w
    · rw [if_pos hw] at hset ⊢
      cases hset
      exact core_newPredictor henv _ _
    · rw [if_neg hw] at hset ⊢
      exact h e' hset
  | execute order req =>
    have hp := pick_picked env l.sched order req
    have hworkers : (l.sched.pickBestWorker env order req).2.workers.get? w = some e' := he
    generalize l.sched.pickBestWorker env order req = r at hp hworkers
    cases hp with
    | admitted v e s' known workers completed predHistory =>
      rw [workers] at hworkers
      refine hmodify (fun _ => ?_) hworkers
      rfl
    | refused err s' workers completed predHistory =>
      rw [workers] at hworkers
      exact h e' hworkers
  | reply t req o =>
    cases o with
    | undialled => exact h e' he
    | failed =>
      obtain ⟨e, hknown, hnlms⟩ := feedbackLoop_entry he
      rw [hnlms, if_neg fun hboth => absurd hboth.2 (not_lt.2 (neg_nonpos.2 zero_le_one))]
      exact h e hknown
    | predicted latencyMs promptTokens =>
      obtain ⟨e, hknown, hnlms⟩ := feedbackLoop_entry he
      unfold Move.lesson at hsound ⊢
      dsimp only at hsound ⊢
      rw [hnlms]
      by_cases hboth : t.worker = w ∧ latencyMs > 0
      · rw [if_pos hboth] at hsound ⊢
        rw [if_pos hboth]
        obtain ⟨hlearns, hcore⟩ := h e hknown
        have hupdate := core_update hlearns latencyMs (hsound _ rfl).2 (hroomy e hknown)
        refine ⟨hupdate.1, hupdate.2.trans ?_⟩
        rw [hcore]
        rfl
      · rw [if_neg hboth, if_neg hboth]
        exact h e hknown
  | setVram id freeMb =>
    have hset : (l.sched.workers.modify id fun e =>
      { e with worker := { e.worker with lastKnownVram := freeMb } }).get? w = some e' := he
    refine hmodify (fun _ => ?_) hset
    rfl
  | resetWorker id =>
    have hreset : (l.sched.workers.modify id Entry.reset).get? w = some e' := he
    unfold Move.lesson
    dsimp only
    rw [Dict.get?_modify] at hreset
    by_cases hw : id = w
    · rw [if_pos hw.symm] at hreset
      rw [if_pos hw]
      obtain ⟨e, hknown, rfl⟩ := Option.map_eq_some_iff.1 hreset
      obtain ⟨hlearns, rfl⟩ := h e hknown
      exact ⟨hlearns, rfl⟩
    · rw [if_neg (Ne.symm hw)] at hreset
      rw [if_neg hw]
      exact h e' hreset
  | resetStats => exact h e' he

theorem Server.HasLearned.play {env : Env K} (henv : env.strategy ≠ .static) {w : String} :
    ∀ {ms : List (Move K)} {l : Server K} {c : Nlms K}, l.HasLearned w c →
      Trace.Always (Move.exec env) (Server.Roomy w) l ms → (∀ n ∈ lessons w ms, n.Sound) →
        (Trace.play (Move.exec env) l ms).HasLearned w (Trace.play (Lesson.exec env.isDual) c (lessons w ms))
  | [], _, _, h, _, _ => h
  | m :: ms, l, c, h, hroomy, hsound => by
    have hmine : ∀ n ∈ m.lesson w, n.Sound := fun n hn =>
      hsound n (List.mem_filterMap.2 ⟨m, List.mem_cons_self, hn⟩)
    have hrest : ∀ n ∈ lessons w ms, n.Sound := fun n hn => by
      obtain ⟨m', hm', hn⟩ := List.mem_filterMap.1 hn
      exact hsound n (List.mem_filterMap.2 ⟨m', List.mem_cons_of_mem _ hm', hn⟩)
    have hplay := (h.exec henv hroomy.1 hmine).play henv hroomy.2 hrest
    have hlessons : Trace.play (Lesson.exec env.isDual) c (lessons w (m :: ms)) =
        Trace.play (Lesson.exec env.isDual) ((m.lesson w).elim c fun n => n.exec env.isDual c) (lessons w ms) := by
      unfold lessons
      rw [List.filterMap_cons]
      cases m.lesson w <;> rfl
    rw [hlessons]
    exact hplay

end Manager

/-! ## The learner of dio-serve -/

section Port

open Dio.Scheduler (DualTimescaleNlms Cfg State View Happening freshLearner)

variable [Field K] [LinearOrder K]

/-- The settings under which dio-serve learns as the manager does. -/
structure Ported (cfg : Cfg K) : Prop where
  robust : cfg.learnerRobust = false
  muFast : cfg.muFast = Manager.muFast
  muSlow : cfg.muSlow = Manager.muSlow
  muBias : cfg.muBias = Manager.muBias
  blend : cfg.blend = fastSlowBlend
  slope : cfg.initialSlope = initialSlope
  intercept : cfg.initialIntercept = initialIntercept
  learns : cfg.strategy ≠ .static

def portCore (m : DualTimescaleNlms K) : Nlms K :=
  ⟨m.dual, m.fastSlope, m.slowSlope, m.intercept, m.avgLatency, m.sumAbs, m.sumRel, m.sumSq, m.updateCount⟩

/-- The parameters are at least the manager's floors and below dio-serve's ceilings. -/
structure InBand (m : DualTimescaleNlms K) : Prop where
  fastSlope : initialSlope ≤ m.fastSlope ∧ m.fastSlope < m.slopeMax
  slowSlope : initialSlope ≤ m.slowSlope ∧ m.slowSlope < m.slopeMax
  intercept : m.intercept < m.interceptMax

/-- What happens to a worker, when it is something to its learner. -/
def portLesson : Happening K → Option (Lesson K)
  | .registered .. => some .joined
  | .finished e2eMs tokens true => some (.taught e2eMs tokens)
  | _ => none

variable {cfg : Cfg K} {m : DualTimescaleNlms K}

omit [LinearOrder K] in
theorem portCore_newWorker (hported : Ported cfg) (tier : String) (total : K) (free : Option K) :
    (Scheduler.newWorker cfg tier total free).nlms.tuning = (freshLearner cfg).tuning ∧
      portCore (Scheduler.newWorker cfg tier total free).nlms = .fresh cfg.isDual := by
  refine ⟨rfl, ?_⟩
  unfold Scheduler.newWorker portCore Nlms.fresh
  simp [hported.learns, hported.slope, hported.intercept]

omit [Field K] [LinearOrder K] in
theorem portCore_booked {m' : DualTimescaleNlms K} (h : Scheduler.Booked m m') :
    m'.tuning = m.tuning ∧ portCore m' = portCore m := by
  rw [h.rest]
  exact ⟨rfl, rfl⟩

omit [LinearOrder K] in
theorem predict_portCore (hported : Ported cfg) (htuning : m.tuning = (freshLearner cfg).tuning) {tokens : Int}
    (htokens : 1 ≤ tokens) : m.predict tokens = (portCore m).predict tokens := by
  have hblend : m.blend = fastSlowBlend := (congrArg DualTimescaleNlms.Tuning.blend htuning).trans hported.blend
  unfold DualTimescaleNlms.predict DualTimescaleNlms.effectiveSlope Scheduler.tokenCount
  rw [max_eq_right htokens, hblend]
  rfl

/-- The statistics are not learned. -/
theorem learn_statistics (m : DualTimescaleNlms K) (e2eMs : K) (tokens : Int) (inflight : Nat) :
    (m.learn e2eMs tokens inflight).sumAbs = m.sumAbs ∧ (m.learn e2eMs tokens inflight).sumRel = m.sumRel ∧
      (m.learn e2eMs tokens inflight).sumSq = m.sumSq := by
  unfold DualTimescaleNlms.learn
  split
  · exact ⟨rfl, rfl, rfl⟩
  · dsimp only
    obtain ⟨a, b, c, h⟩ := DualTimescaleNlms.countClip_eq m (m.predict tokens) (e2eMs - m.predict tokens) inflight
    rw [h]
    exact ⟨rfl, rfl, rfl⟩

variable [IsStrictOrderedRing K]

/-- A parameter that ends between the floors and under the ceiling was not cut by either learner. -/
theorem clamp_eq_floor {hi x : K} (hlo : initialSlope ≤ DualTimescaleNlms.clamp hi x)
    (hhi : DualTimescaleNlms.clamp hi x < hi) : DualTimescaleNlms.clamp hi x = max initialSlope x := by
  have htenth : (1 : K) / 10 < initialSlope := by
    unfold initialSlope
    norm_num
  have hcut : DualTimescaleNlms.clamp hi x = x := by
    unfold DualTimescaleNlms.clamp at hlo hhi ⊢
    rcases le_total (1 / 10) (min hi x) with hle | hle
    · rw [max_eq_right hle] at hhi ⊢
      rcases min_choice hi x with hmin | hmin
      · exact absurd hhi (by rw [hmin]; exact lt_irrefl _)
      · exact hmin
    · rw [max_eq_left hle] at hlo
      exact absurd hlo (not_le.2 htenth)
  rw [hcut] at hlo ⊢
  exact (max_eq_right hlo).symm

omit [IsStrictOrderedRing K] in
theorem clamp_eq_tenth {hi x : K} (hhi : DualTimescaleNlms.clamp hi x < hi) :
    DualTimescaleNlms.clamp hi x = max (1 / 10) x := by
  unfold DualTimescaleNlms.clamp at hhi ⊢
  rcases min_choice hi x with hmin | hmin
  · rw [hmin] at hhi
    exact absurd hhi (not_lt.2 (le_max_right _ _))
  · rw [hmin]

omit [IsStrictOrderedRing K] in
theorem movingLatency_eq_average {avg : K} (havg : 0 ≤ avg) (e2eMs : K) :
    Scheduler.movingLatency avg e2eMs = movingAverage avg e2eMs := by
  unfold Scheduler.movingLatency movingAverage
  rcases havg.eq_or_lt with hzero | hpos
  · rw [if_pos hzero.symm.le, if_pos hzero.symm]
  · rw [if_neg (not_le.2 hpos), if_neg hpos.ne']

/-- A sample after which the parameters are within the band. -/
theorem portCore_update (hported : Ported cfg) (htuning : m.tuning = (freshLearner cfg).tuning) (havg : 0 ≤ m.avgLatency)
    (e2eMs : K) {tokens : Int} (htokens : 1 ≤ tokens) {inflight : Nat} (hband : InBand (m.update e2eMs tokens inflight).2) :
    portCore (m.update e2eMs tokens inflight).2 = (portCore m).teach e2eMs tokens := by
  have hkept := DualTimescaleNlms.update_tuning m e2eMs tokens inflight
  have hlearns : m.frozen = false :=
    (congrArg DualTimescaleNlms.Tuning.frozen htuning).trans (decide_eq_false hported.learns)
  have hrobust : m.robust = false := (congrArg DualTimescaleNlms.Tuning.robust htuning).trans hported.robust
  have hmuFast : m.muFast = Manager.muFast := (congrArg DualTimescaleNlms.Tuning.muFast htuning).trans hported.muFast
  have hmuSlow : m.muSlow = Manager.muSlow := (congrArg DualTimescaleNlms.Tuning.muSlow htuning).trans hported.muSlow
  have hmuBias : m.muBias = Manager.muBias := (congrArg DualTimescaleNlms.Tuning.muBias htuning).trans hported.muBias
  have hslopeMax : (m.update e2eMs tokens inflight).2.slopeMax = m.slopeMax :=
    congrArg DualTimescaleNlms.Tuning.slopeMax hkept
  have hinterceptMax : (m.update e2eMs tokens inflight).2.interceptMax = m.interceptMax :=
    congrArg DualTimescaleNlms.Tuning.interceptMax hkept
  have hdual : (m.update e2eMs tokens inflight).2.dual = m.dual := congrArg DualTimescaleNlms.Tuning.dual hkept
  have hpredict := predict_portCore hported htuning htokens
  have hcount : (Scheduler.tokenCount tokens : K) = tokens := by
    unfold Scheduler.tokenCount
    rw [max_eq_right htokens]
  -- every sample is taken at face value
  have htrusted : m.trusted inflight = true := by
    unfold DualTimescaleNlms.trusted
    rw [hrobust]
    rfl
  have hsteps := DualTimescaleNlms.update_steps hlearns e2eMs tokens inflight
  have hcap : m.stepCap (m.predict tokens) tokens inflight = none := if_pos htrusted
  have herr : m.updateErr (m.predict tokens) (e2eMs - m.predict tokens) inflight = e2eMs - m.predict tokens := if_pos htrusted
  rw [hcap, herr, hpredict] at hsteps
  have hfast : (m.update e2eMs tokens inflight).2.fastSlope = ((portCore m).teach e2eMs tokens).fastSlope := by
    have hb := hband.fastSlope
    rw [hslopeMax] at hb
    rw [hsteps.fast] at hb ⊢
    rw [clamp_eq_floor hb.1 hb.2, hmuFast, hcount]
    rfl
  have hslow : (m.update e2eMs tokens inflight).2.slowSlope = ((portCore m).teach e2eMs tokens).slowSlope := by
    have hb := hband.slowSlope
    rw [hslopeMax] at hb
    rw [hsteps.slow] at hb ⊢
    rw [clamp_eq_floor hb.1 hb.2, hmuFast, hmuSlow, hcount]
    rfl
  have hintercept : (m.update e2eMs tokens inflight).2.intercept = ((portCore m).teach e2eMs tokens).intercept := by
    have hb := hband.intercept
    rw [hinterceptMax] at hb
    rw [hsteps.intercept] at hb ⊢
    rw [clamp_eq_tenth hb, hmuBias]
    rfl
  have hstats := learn_statistics (m.tally e2eMs tokens) e2eMs tokens inflight
  have hlessons := Scheduler.sameLessons_learn (m.tally e2eMs tokens) e2eMs tokens inflight
  have herror : e2eMs - m.predict tokens = e2eMs - (portCore m).predict tokens := by rw [hpredict]
  have habs : (m.update e2eMs tokens inflight).2.sumAbs = ((portCore m).teach e2eMs tokens).sumAbs :=
    hstats.1.trans (congrArg (fun err => m.sumAbs + |err|) herror)
  have hrel : (m.update e2eMs tokens inflight).2.sumRel = ((portCore m).teach e2eMs tokens).sumRel :=
    hstats.2.1.trans (congrArg (fun err => m.sumRel + |err| / max e2eMs 1) herror)
  have hsq : (m.update e2eMs tokens inflight).2.sumSq = ((portCore m).teach e2eMs tokens).sumSq :=
    hstats.2.2.trans (congrArg (fun err => m.sumSq + err * err) herror)
  have hlatency : (m.update e2eMs tokens inflight).2.avgLatency = ((portCore m).teach e2eMs tokens).averageLatency := by
    show Scheduler.movingLatency ((m.tally e2eMs tokens).learn e2eMs tokens inflight).avgLatency e2eMs = _
    rw [hlessons.avgLatency]
    exact movingLatency_eq_average havg e2eMs
  have hupdates : (m.update e2eMs tokens inflight).2.updateCount = ((portCore m).teach e2eMs tokens).updateCount :=
    hlessons.updateCount
  unfold portCore at hfast hslow hintercept habs hrel hsq hlatency hupdates ⊢
  rw [hdual, hfast, hslow, hintercept, hlatency, habs, hrel, hsq, hupdates]
  rfl

/-- The worker of the view, when it is registered, has learned `c`. -/
structure HasLearned (cfg : Cfg K) (v : View K) (c : Nlms K) : Prop where
  averageLatency : 0 ≤ c.averageLatency
  worker : ∀ x ∈ v.worker, x.nlms.tuning = (freshLearner cfg).tuning ∧ portCore x.nlms = c

omit [Field K] [LinearOrder K] [IsStrictOrderedRing K] in
theorem portLesson_quiet {ev : Happening K} (hquiet : ev.quiet = true) : portLesson ev = none := by
  cases ev with
  | registered tier total free => cases hquiet
  | finished e2eMs tokens success =>
    cases success with
    | true => cases hquiet
    | false => rfl
  | _ => rfl

theorem HasLearned.exec (hported : Ported cfg) {v : View K} {c : Nlms K} (h : HasLearned cfg v c) {ev : Happening K}
    (hband : ∀ x ∈ (ev.exec cfg v).worker, InBand x.nlms) (hsound : ∀ n ∈ portLesson ev, n.Sound) :
    HasLearned cfg (ev.exec cfg v) ((portLesson ev).elim c fun n => n.exec cfg.isDual c) := by
  constructor
  · cases hn : portLesson ev with
    | none => exact h.averageLatency
    | some n => exact (hsound n hn).averageLatency h.averageLatency
  · intro x' hx'
    have hin := hband x' hx'
    rcases Scheduler.record_exec hx' with ⟨tier, total, free, rfl, rfl⟩ | ⟨x, hx, ⟨e2eMs, t, rfl, rfl⟩ | ⟨hquiet, f, hf, rfl⟩⟩
    · exact portCore_newWorker hported tier total free
    · obtain ⟨htuning, rfl⟩ := h.worker x hx
      have htokens : 1 ≤ t := (hsound _ rfl).2
      let popped : DualTimescaleNlms K := { x.nlms with inflightLog := x.nlms.inflightLog.tail }
      let taught : DualTimescaleNlms K := (popped.update e2eMs t (x.nlms.inflightLog.headD 1)).2
      have hfree : Scheduler.Booked taught taught.free := Scheduler.booked_free taught
      obtain ⟨hsame, hcore⟩ := portCore_booked hfree
      have hinTaught : InBand taught := by
        have hfreed : InBand taught.free := hin
        rw [hfree.rest] at hfreed
        exact ⟨hfreed.fastSlope, hfreed.slowSlope, hfreed.intercept⟩
      have hupdate := portCore_update (m := popped) hported htuning h.averageLatency e2eMs htokens hinTaught
      refine ⟨?_, hcore.trans hupdate⟩
      exact (hsame.trans (DualTimescaleNlms.update_tuning popped e2eMs t _)).trans htuning
    · rw [portLesson_quiet hquiet]
      obtain ⟨hsame, hcore⟩ := portCore_booked hf
      obtain ⟨htuning, hlearned⟩ := h.worker x hx
      exact ⟨hsame.trans htuning, hcore.trans hlearned⟩

theorem HasLearned.play (hported : Ported cfg) : ∀ {evs : List (Happening K)} {v : View K} {c : Nlms K},
    HasLearned cfg v c →
      Trace.Allowed (Happening.exec cfg) (fun v ev => ∀ x ∈ (ev.exec cfg v).worker, InBand x.nlms) v evs →
        (∀ n ∈ evs.filterMap portLesson, n.Sound) →
          HasLearned cfg (Trace.play (Happening.exec cfg) v evs)
            (Trace.play (Lesson.exec cfg.isDual) c (evs.filterMap portLesson))
  | [], _, _, h, _, _ => h
  | ev :: evs, v, c, h, hband, hsound => by
    have hmine : ∀ n ∈ portLesson ev, n.Sound := fun n hn =>
      hsound n (List.mem_filterMap.2 ⟨ev, List.mem_cons_self, hn⟩)
    have hrest : ∀ n ∈ evs.filterMap portLesson, n.Sound := fun n hn => by
      obtain ⟨ev', hev', hn⟩ := List.mem_filterMap.1 hn
      exact hsound n (List.mem_filterMap.2 ⟨ev', List.mem_cons_of_mem _ hev', hn⟩)
    have hplay := (h.exec hported hband.1 hmine).play hported hband.2 hrest
    have hlessons : Trace.play (Lesson.exec cfg.isDual) c ((ev :: evs).filterMap portLesson) =
        Trace.play (Lesson.exec cfg.isDual) ((portLesson ev).elim c fun n => n.exec cfg.isDual c)
          (evs.filterMap portLesson) := by
      rw [List.filterMap_cons]
      cases portLesson ev <;> rfl
    rw [hlessons]
    exact hplay

variable [FloorRing K]

/-- A worker of dio-serve and one of the manager that were told the same of their requests predict the same latencies
and have counted the same errors: whatever else happens to the two schedulers, and however they pick. -/
theorem port_learns_alike (hported : Ported cfg) {env : Env K} (henv : env.strategy ≠ .static)
    (hdual : cfg.isDual = env.isDual) {w : String} {ms : List (Scheduler.Move K)} {gs : List (Move K)}
    (hband : Trace.Always (fun m s => m.onSched cfg s) (fun s => ∀ x ∈ (s.view w).worker, InBand x.nlms) .init ms)
    (hroomy : Trace.Always (Move.exec env) (Server.Roomy w) .init gs) (hsound : ∀ n ∈ lessons w gs, n.Sound)
    (hsame : (Scheduler.happenings cfg w .init ms).filterMap portLesson = lessons w gs) {x : Scheduler.Worker K}
    (hx : Dict.get? (Scheduler.played cfg .init ms).predictors w = some x) {e : Entry K}
    (he : (Trace.play (Move.exec env) .init gs).sched.workers.get? w = some e) :
    (∀ tokens, 1 ≤ tokens → x.nlms.predict tokens = e.nlms.base tokens) ∧
      x.nlms.avgLatency = e.nlms.averageLatency ∧ x.nlms.updateCount = e.nlms.updateCount ∧
      x.nlms.sumAbs = e.nlms.sumAbsErr ∧ x.nlms.sumRel = e.nlms.sumRelErr ∧ x.nlms.sumSq = e.nlms.sumSquaredError := by
  have hshadow : Trace.Allowed (Happening.exec cfg) (fun v ev => ∀ x ∈ (ev.exec cfg v).worker, InBand x.nlms)
      (State.init.view w) (Scheduler.happenings cfg w .init ms) := by
    refine Trace.allowed_shadows (fun s => State.view s w) (Scheduler.Move.happening cfg w) (Happening.exec cfg)
      (fun s m => Scheduler.view_onSched cfg s m w) (hband.next.mono fun s m hin n hn => ?_)
    have hview := Scheduler.view_onSched cfg s m w
    rw [Option.mem_def.1 hn, Option.elim_some] at hview
    rw [← hview]
    exact hin
  have hport : HasLearned cfg ((Scheduler.played cfg .init ms).view w) (curriculum cfg.isDual (lessons w gs)) := by
    have hnone : HasLearned cfg (State.init.view w) (.fresh cfg.isDual) := ⟨le_rfl, fun x hx => by cases hx⟩
    have hplay := hnone.play hported hshadow (by rwa [hsame])
    rwa [← Scheduler.view_played, hsame] at hplay
  have hmanager : (Trace.play (Move.exec env) .init gs).HasLearned w (curriculum cfg.isDual (lessons w gs)) := by
    have hnone : (Server.init : Server K).HasLearned w (.fresh env.isDual) := fun e he => by cases he
    rw [hdual]
    exact hnone.play henv hroomy hsound
  obtain ⟨htuning, hcore⟩ := hport.worker x hx
  have hagree : portCore x.nlms = e.nlms.core := hcore.trans (hmanager e he).2.symm
  refine ⟨fun tokens htokens => ?_, congrArg Nlms.averageLatency hagree, congrArg Nlms.updateCount hagree,
    congrArg Nlms.sumAbs hagree, congrArg Nlms.sumRel hagree, congrArg Nlms.sumSq hagree⟩
  calc
    x.nlms.predict tokens = (portCore x.nlms).predict tokens := predict_portCore hported htuning htokens
    _ = e.nlms.core.predict tokens := by rw [hagree]
    _ = e.nlms.base tokens := rfl

end Port

/-! ## Examples -/

/-- dio-serve under the manager's settings. -/
def portedCfg : Scheduler.Cfg ℚ := { Scheduler.defaultCfg with strategy := .roundRobin, learnerRobust := false }

theorem ported_portedCfg : Ported portedCfg := ⟨rfl, rfl, rfl, rfl, rfl, rfl, rfl, by decide⟩

/-- A request of 700 ms and 100 tokens, after one that failed. -/
def portRun : List (Scheduler.Move ℚ) :=
  [.register Scheduler.oneWorker, .pick ⟨"hi", "small", some 100, none⟩, .feedback ⟨0, "gpu0", 1, 0⟩ 30 1 false,
    .pick ⟨"hi", "small", some 100, none⟩, .feedback ⟨1, "gpu0", 1, 0⟩ 700 100 true]

/-- The same request, before one that is not over. -/
def managerRun : List (Move ℚ) :=
  [.register { workerId := "gpu0", address := "gpu0:1", tier := "small", vramGb := 24, freeVramMb := 24000 },
    .execute ["gpu0"] hello, .reply ⟨0, "gpu0", 1, 1⟩ hello (.predicted 700 100), .execute ["gpu0"] hello]

theorem inBand_portRun : Trace.Always (fun m s => m.onSched portedCfg s)
    (fun s => ∀ x ∈ (s.view "gpu0").worker, InBand x.nlms) .init portRun := by
  refine ⟨?_, ?_, ?_, ?_, ?_, ?_⟩
  · rintro _ ⟨⟩
  all_goals
    intro x hx
    rw [← Option.some.inj hx]
    constructor <;> decide +kernel

theorem roomy_managerRun : Trace.Always (Move.exec (plainEnv .roundRobin)) (Server.Roomy "gpu0") .init managerRun := by
  refine ⟨?_, ?_, ?_, ?_, ?_⟩
  · rintro _ ⟨⟩
  all_goals
    intro e he
    rw [← Option.some.inj he]
    decide +kernel

theorem port_learns_alike_gpu0 : ∃ x e,
    Dict.get? (Scheduler.played portedCfg .init portRun).predictors "gpu0" = some x ∧
      (Trace.play (Move.exec (plainEnv .roundRobin)) .init managerRun).sched.workers.get? "gpu0" = some e ∧
      x.nlms.predict 250 = e.nlms.base 250 := by
  have hport : (Dict.get? (Scheduler.played portedCfg .init portRun).predictors "gpu0").isSome := rfl
  have hmanager : ((Trace.play (Move.exec (plainEnv .roundRobin)) .init managerRun).sched.workers.get? "gpu0").isSome := rfl
  obtain ⟨x, hx⟩ := Option.isSome_iff_exists.1 hport
  obtain ⟨e, he⟩ := Option.isSome_iff_exists.1 hmanager
  have hlessons : lessons "gpu0" managerRun = [.joined, .taught 700 100] := rfl
  have hsound : ∀ n ∈ lessons "gpu0" managerRun, n.Sound := by
    rw [hlessons]
    intro n hn
    rcases List.mem_cons.1 hn with rfl | hn
    · exact trivial
    · rw [List.mem_singleton.1 hn]
      exact ⟨by norm_num, by norm_num⟩
  have hsame : (Scheduler.happenings portedCfg "gpu0" .init portRun).filterMap portLesson = lessons "gpu0" managerRun := rfl
  exact ⟨x, e, hx, he, (port_learns_alike ported_portedCfg (by decide) rfl inBand_portRun roomy_managerRun hsound hsame hx
    he).1 250 (by decide)⟩

end Dio.Manager
