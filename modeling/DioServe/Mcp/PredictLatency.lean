/-
The tool `dio_predict_latency` (`mcp.py`, `predict_latency`): it scores the workers itself, from the
gateway's metrics, and recommends the first of the best. It ranks every worker, healthy or not. On an
idle scheduler its figures are the router's estimates, rounded; the router asks the healthy ones only.
-/
import DioServe.Gateway.Effects
import DioServe.Scheduler.Admission
import DioServe.Scheduler.Ranking
import DioServe.Scheduler.Snapshot
import DioServe.Stats.Leading

namespace Dio.Mcp

open Data Effect Scheduler

/-! ## The tool -/

/-- One of `candidate_backends`. -/
structure Candidate (K : Type) where
  backendId : String
  predictedExecutionMs : K
  queueWaitMs : K
  totalScore : K
  pendingRequests : Int
  learnedSlopeMsPerToken : K
  healthy : Metric K

/-- What `predict_latency` returns. -/
inductive Prediction (K : Type)
  | error (text : String)
  | online (estimatedTokens : Int) (model : String) (recommendedBackend : Option String) (predictedLatencyMs : Option K)
      (sloMs : K) (admissible : Bool) (candidateBackends : List (Candidate K))
  | offline (estimatedTokens : Int) (model : String) (predictedLatencyMs : K) (note : String)

/-- `recommended_backend`. -/
def Prediction.recommendedBackend {K : Type} : Prediction K → Option String
  | .online _ _ recommended _ _ _ _ => recommended
  | .error _ | .offline _ _ _ _ => none

variable {K : Type} [Field K] [LinearOrder K]

def truthy : Metric K → Bool
  | .null => false
  | .num x => x ≠ 0
  | .count n => n ≠ 0
  | .flag b => b
  | .text s => s ≠ ""

variable [FloorRing K]

/-- `round(x, 1)`. -/
def round1 (x : K) : K := (roundHalfEven (x * 10) : K) / 10

section Tool

-- `float` and `int` of a text: the number, or the text of their exception
variable (floatOfText : String → Except String K) (intOfText : String → Except String Int)

/-- `float(v)`. -/
def toFloat : Metric K → Except String K
  | .null => .error "float() argument must be a string or a real number, not 'NoneType'"
  | .num x => .ok x
  | .count n => .ok n
  | .flag b => .ok (if b then 1 else 0)
  | .text s => floatOfText s

/-- `int(v)`. -/
def toInt : Metric K → Except String Int
  | .null => .error "int() argument must be a string, a bytes-like object or a real number, not 'NoneType'"
  | .num x => .ok (Gateway.truncate x)
  | .count n => .ok n
  | .flag b => .ok (if b then 1 else 0)
  | .text s => intOfText s

/-- `w.get(key) or default`. -/
def getOr (w : Snapshot K) (key : String) (default : Metric K) : Metric K :=
  ((Dict.get? w key).filter truthy).getD default

/-- The prediction for one worker. -/
def predictWorker (estTokens : Int) (wid : String) (w : Snapshot K) : Except String (Candidate K) := do
  let fastS ← toFloat floatOfText (getOr w "fast_slope" (.num 4))
  let slowS ← toFloat floatOfText (getOr w "slow_slope" (.num 4))
  -- a snapshot has no alpha, so this is the default blend
  let alpha ← toFloat floatOfText (getOr w "alpha" (.num (8 / 10)))
  let effSlope := alpha * fastS + (1 - alpha) * slowS
  let intercept ← toFloat floatOfText (getOr w "intercept" (.num 100))
  let pending ← toInt intOfText (getOr w "pending" (.count 0))
  let yHat := effSlope * (estTokens : K) + intercept
  let waitMs := (pending : K) * max 10 (yHat * (25 / 100))
  let tierCost ← toFloat floatOfText (getOr w "tier_cost" (.num 0))
  let totalCost := waitMs + yHat + tierCost
  return ⟨wid, round1 yHat, round1 waitMs, round1 totalCost, pending, Gateway.round2 effSlope,
    (Dict.get? w "healthy").getD (.flag true)⟩

def predictWorkers (estTokens : Int) : Dict String (Snapshot K) → Except String (List (Candidate K))
  | [] => .ok []
  | (wid, w) :: ws => do
    let c ← predictWorker floatOfText intOfText estTokens wid w
    return c :: (← predictWorkers estTokens ws)

/-- `predict_latency`. The reply is an exception of the client, with its text, or a status with the body
that `r.json()` reads, or the exception it raises. -/
def predictLatency (gatewayUrl : String) (reply : Except String (Nat × Except String (Metrics K))) (prompt : String)
    (model : Option String) (tokens : Option Int) : Prediction K :=
  let estTokens := tokens.getD (max 1 (prompt.length / 4 : Int))
  let name := (model.filter (· ≠ "")).getD "default"
  let predicted : Except String (Prediction K) := do
    let (status, body) ← reply
    if status ≠ 200 then return .error s!"Gateway returned status {status}"
    let metrics ← body
    let sloMs ← toFloat floatOfText ((Dict.get? metrics.admission "slo_ms").getD (.num 30000))
    let predictions := (← predictWorkers floatOfText intOfText estTokens metrics.workers).insertionSort
      fun a b => a.totalScore ≤ b.totalScore
    let best := predictions.head?
    return .online estTokens name (best.map (·.backendId)) (best.map (·.totalScore)) sloMs
      ((best.map fun c => decide (c.totalScore ≤ sloMs)).getD false) predictions
  match predicted with
  | .ok p => p
  | .error e =>
    .offline estTokens name (round1 ((estTokens : K) * 15 + 100))
      s!"Estimated via heuristic (DIO gateway at {gatewayUrl} is offline: {e})"

end Tool

/-! ## Rounding -/

theorem roundHalfEven_error [IsStrictOrderedRing K] (x : K) : |(roundHalfEven x : K) - x| ≤ 1 / 2 := by
  have hlo := Int.floor_le x
  have hhi := Int.lt_floor_add_one x
  unfold roundHalfEven
  dsimp only
  rw [abs_le]
  split
  · constructor <;> linarith
  · split
    · rw [Int.cast_add, Int.cast_one]
      constructor <;> linarith
    · split
      · constructor <;> linarith
      · rw [Int.cast_add, Int.cast_one]
        constructor <;> linarith

theorem round1_error [IsStrictOrderedRing K] (x : K) : |round1 x - x| ≤ 1 / 20 := by
  obtain ⟨hlo, hhi⟩ := abs_le.1 (roundHalfEven_error (x * 10))
  have hmul : round1 x * 10 = roundHalfEven (x * 10) := by
    unfold round1
    rw [div_mul_cancel₀]
    norm_num
  rw [← hmul] at hlo hhi
  rw [abs_le]
  constructor <;> linarith

/-! ## What is shown of a worker -/

/-- `x or default`. -/
def orElse (x default : K) : K := if x = 0 then default else x

/-- The figure of an idle worker: its estimate, with other numbers where a parameter is zero, with the
default blend, and for the token count as it is given. -/
def shown (m : DualTimescaleNlms K) (tokens : Int) : K :=
  (8 / 10 * orElse m.fastSlope 4 + (1 - 8 / 10) * orElse m.slowSlope 4) * (tokens : K) + orElse m.intercept 100

section Shown

variable (floatOfText : String → Except String K) (intOfText : String → Except String Int)

omit [FloorRing K] in
theorem toFloat_getOr {w : Snapshot K} {key : String} {x : K} (hget : Dict.get? w key = some (.num x)) (default : K) :
    toFloat floatOfText (getOr w key (.num default)) = .ok (orElse x default) := by
  unfold getOr orElse
  rw [hget]
  by_cases hx : x = 0
  · rw [Option.filter_some, if_neg (by simp [truthy, hx]), if_pos hx]; rfl
  · rw [Option.filter_some, if_pos (by simp [truthy, hx]), if_neg hx]; rfl

omit [FloorRing K] in
theorem toFloat_getOr_missing {w : Snapshot K} {key : String} (hget : Dict.get? w key = none) (default : K) :
    toFloat floatOfText (getOr w key (.num default)) = .ok default := by
  unfold getOr
  rw [hget]; rfl

/-- The prediction for a worker without requests has its figure, rounded. -/
theorem predictWorker_snapshot {m : DualTimescaleNlms K} (hm : m.pending = 0) (tokens : Int) (wid : String) :
    ∃ c, predictWorker floatOfText intOfText tokens wid m.snapshot = .ok c ∧ c.backendId = wid ∧
      c.totalScore = round1 (shown m tokens) := by
  have hfast := toFloat_getOr floatOfText (show Dict.get? m.snapshot "fast_slope" = some (.num m.fastSlope) from rfl) 4
  have hslow := toFloat_getOr floatOfText (show Dict.get? m.snapshot "slow_slope" = some (.num m.slowSlope) from rfl) 4
  have hint := toFloat_getOr floatOfText (show Dict.get? m.snapshot "intercept" = some (.num m.intercept) from rfl) 100
  have halpha := toFloat_getOr_missing floatOfText (show Dict.get? m.snapshot "alpha" = none from rfl) (8 / 10)
  have htier := toFloat_getOr_missing floatOfText (show Dict.get? m.snapshot "tier_cost" = none from rfl) 0
  have hpending : toInt intOfText (getOr m.snapshot "pending" (.count 0)) = .ok 0 := by
    have hget : Dict.get? m.snapshot "pending" = some (.count 0) := by rw [← hm]; rfl
    unfold getOr
    rw [hget]; rfl
  let wait : K := ((0 : Int) : K) * max 10 (shown m tokens * (25 / 100))
  refine ⟨⟨wid, round1 (shown m tokens), round1 wait, round1 (wait + shown m tokens + 0), 0,
    Gateway.round2 (8 / 10 * orElse m.fastSlope 4 + (1 - 8 / 10) * orElse m.slowSlope 4), .flag m.healthy⟩, ?_, rfl, ?_⟩
  · unfold predictWorker
    rw [hfast, hslow, hint, halpha, htier, hpending]
    rfl
  · show round1 (wait + shown m tokens + 0) = _
    rw [show wait = 0 from (congrArg (· * _) Int.cast_zero).trans (zero_mul _), zero_add, add_zero]

/-- The predictions for idle workers, in their order. -/
theorem predictWorkers_snapshots (tokens : Int) : ∀ {ws : Dict String (Worker K)}, (∀ p ∈ ws, p.2.nlms.pending = 0) →
    ∃ cs, predictWorkers floatOfText intOfText tokens (ws.map fun p => (p.1, p.2.nlms.snapshot)) = .ok cs ∧
      cs.map (fun c => (c.backendId, c.totalScore)) = ws.map fun p => (p.1, round1 (shown p.2.nlms tokens))
  | [], _ => ⟨[], rfl, rfl⟩
  | (wid, w) :: ws, h => by
    obtain ⟨hw, hws⟩ := List.forall_mem_cons.1 h
    obtain ⟨c, hc, hid, htotal⟩ := predictWorker_snapshot floatOfText intOfText hw tokens wid
    obtain ⟨cs, hcs, hmap⟩ := predictWorkers_snapshots tokens hws
    refine ⟨c :: cs, ?_, ?_⟩
    · rw [List.map_cons, predictWorkers, hc, hcs]; rfl
    · rw [List.map_cons, List.map_cons, hmap, hid, htotal]

end Shown

/-! ## The recommendation -/

section Recommendation

variable (floatOfText : String → Except String K) (intOfText : String → Except String Int) (gatewayUrl : String)

/-- The recommendation for a request, from the metrics of the scheduler as it is. -/
def recommended (cfg : Cfg K) (s : State K) (model : Option String) (a : PickArgs) : Option String :=
  (predictLatency floatOfText intOfText gatewayUrl (.ok (200, .ok (metrics cfg s))) a.prompt model
    a.tokens).recommendedBackend

/-- The worker recommended leads the workers by their rounded figures. -/
theorem recommended_eq_some {cfg : Cfg K} {s : State K} (hidle : ∀ p ∈ s.predictors, p.2.nlms.pending = 0)
    (model : Option String) (a : PickArgs) (id : String) :
    recommended floatOfText intOfText gatewayUrl cfg s model a = some id ↔
      ∃ p, Stats.Leads (fun q : String × Worker K => round1 (shown q.2.nlms a.count)) s.predictors p ∧ p.1 = id := by
  obtain ⟨cs, hcs, hmap⟩ := predictWorkers_snapshots floatOfText intOfText a.count hidle
  have hhead : recommended floatOfText intOfText gatewayUrl cfg s model a =
      ((cs.insertionSort fun a b => a.totalScore ≤ b.totalScore).head?).map (·.backendId) := by
    have hslo : toFloat floatOfText ((Dict.get? (metrics cfg s).admission "slo_ms").getD (.num 30000)) =
        .ok cfg.sloMs := rfl
    unfold recommended predictLatency
    dsimp only
    have hws : predictWorkers floatOfText intOfText (a.tokens.getD (max 1 (a.prompt.length / 4 : Int)))
      (metrics cfg s).workers = .ok cs := hcs
    simp only [bind, Except.bind, hslo, hws]
    rfl
  have hpairs : Stats.Leads Prod.snd (cs.map fun c => (c.backendId, c.totalScore)) = 
      Stats.Leads Prod.snd (s.predictors.map fun p => (p.1, round1 (shown p.2.nlms a.count))) := by rw [hmap]
  rw [hhead, Option.map_eq_some_iff]
  constructor
  · rintro ⟨c, hc, rfl⟩
    have hlead : Stats.Leads Prod.snd (cs.map fun c => (c.backendId, c.totalScore)) (c.backendId, c.totalScore) :=
      Stats.leads_map.2 ⟨c, Stats.head?_insertionSort_eq_some.1 hc, rfl⟩
    rw [hpairs] at hlead
    obtain ⟨p, hp, heq⟩ := Stats.leads_map.1 hlead
    exact ⟨p, hp, congrArg Prod.fst heq⟩
  · rintro ⟨p, hp, rfl⟩
    have hlead : Stats.Leads Prod.snd (s.predictors.map fun p => (p.1, round1 (shown p.2.nlms a.count)))
        (p.1, round1 (shown p.2.nlms a.count)) := Stats.leads_map.2 ⟨p, hp, rfl⟩
    rw [← hpairs] at hlead
    obtain ⟨c, hc, heq⟩ := Stats.leads_map.1 hlead
    exact ⟨c, Stats.head?_insertionSort_eq_some.2 hc, congrArg Prod.fst heq⟩

/-! ## An idle scheduler -/

/-- Nothing distinguishes the workers of an idle scheduler for a request but their estimates. -/
structure Idle (cfg : Cfg K) (s : State K) (a : PickArgs) : Prop where
  strategy : cfg.strategy = .nlms
  blend : cfg.blend = 8 / 10
  admissionOff : cfg.admissionOff = true
  unrestricted : a.allowedBackends = none
  healthy : s.healthyIds ≠ []
  pending : ∀ p ∈ s.predictors, p.2.nlms.pending = 0
  tiers : ∀ p ∈ s.predictors, ∀ q ∈ s.predictors, p.2.nlms.tier = q.2.nlms.tier
  vram : ∀ p ∈ s.predictors, cfg.vramHardMb ≤ p.2.nlms.freeVramMb ∧ cfg.vramSoftMb ≤ p.2.nlms.freeVramMb
  telemetry : ∀ p ∈ s.predictors, engine cfg s p.1 = none
  affinity : Dict.get? s.prefixCache (cfg.prefixHash a.prompt) = none

/-- The recommended worker is healthy, and costs the router at most a tenth more than its own pick. -/
def Agrees (cfg : Cfg K) (s : State K) (a : PickArgs) (recommended : Option String) : Prop :=
  ∃ id, recommended = some id ∧ id ∈ s.healthyIds ∧
    ∀ c d, (pick cfg s a).1 = .ok (c, d) → ∃ d', Rated cfg s a id d' ∧ |d'.totalMs - d.totalMs| ≤ 1 / 10

/-- A healthy worker leads all workers by their figures, and is near the cheapest the router may choose. -/
structure Led (cfg : Cfg K) (s : State K) (a : PickArgs) (p : String × Worker K) : Prop where
  leads : Stats.Leads (fun q : String × Worker K => round1 (shown q.2.nlms a.count)) s.predictors p
  healthy : p.2.nlms.healthy = true
  near : ∀ v d, Rated cfg s a v d → ∃ d', Rated cfg s a p.1 d' ∧ d'.totalMs ≤ d.totalMs + 1 / 10

variable {cfg : Cfg K} {s : State K} {a : PickArgs}

omit [FloorRing K] in
theorem Idle.byCost (h : Idle cfg s a) : cfg.strategy.byCost = true := by rw [h.strategy]; rfl

/-- Without a gate the cheapest candidate is picked. -/
theorem Idle.pick_ok (h : Idle cfg s a) {d : RoutingDecision K} (hbest : best cfg s a = some d) :
    (pick cfg s a).1 = .ok (d.workerId, d) := by
  have hopen : ∀ scores, shouldRejectSlo cfg s.recentE2e d.totalMs scores = ⟨false, "rank_only", false⟩ :=
    fun _ => if_pos h.admissionOff
  rw [pick_of_best h.byCost hbest]
  unfold admitOrShed
  rw [hopen]
  rfl

omit [Field K] [LinearOrder K] [FloorRing K] in
theorem mem_healthyIds_of_mem (hn : (Dict.keys s.predictors).Nodup) {p : String × Worker K} (hp : p ∈ s.predictors) :
    p.1 ∈ s.healthyIds ↔ p.2.nlms.healthy = true := by
  have hget : Dict.get? s.predictors p.1 = some p.2 := Dict.get?_of_mem_of_nodup hn hp
  rw [mem_healthyIds hn]
  constructor
  · rintro ⟨w, hw, hh⟩
    rw [hget] at hw
    cases hw
    exact hh
  · intro hh
    exact ⟨p.2, hget, hh⟩

variable [IsStrictOrderedRing K]

/-- The tool and the router agree exactly when a healthy worker leads. -/
theorem agrees_iff_led (h : Idle cfg s a) (hn : (Dict.keys s.predictors).Nodup) (model : Option String) :
    Agrees cfg s a (recommended floatOfText intOfText gatewayUrl cfg s model a) ↔ ∃ p, Led cfg s a p := by
  constructor
  · rintro ⟨id, hrec, hid, hnear⟩
    obtain ⟨p, hlead, rfl⟩ := (recommended_eq_some floatOfText intOfText gatewayUrl h.pending model a id).1 hrec
    refine ⟨p, hlead, (mem_healthyIds_of_mem hn hlead.mem).1 hid, fun v d hv => ?_⟩
    cases hbest : best cfg s a with
    | none =>
      have hmem := hv.mem
      rw [ranking_eq_nil hbest] at hmem
      cases hmem
    | some b =>
      obtain ⟨d', hd', hle⟩ := hnear _ _ (h.pick_ok hbest)
      have hmin : b.totalMs ≤ d.totalMs := (firstMin_spec hbest).2 d hv.mem
      have hdiff := (abs_le.1 hle).2
      exact ⟨d', hd', by linarith⟩
  · rintro ⟨p, hlead, hp, hnear⟩
    refine ⟨p.1, ?_, (mem_healthyIds_of_mem hn hlead.mem).2 hp, fun c d hpick => ?_⟩
    · exact (recommended_eq_some floatOfText intOfText gatewayUrl h.pending model a p.1).2 ⟨p, hlead, rfl⟩
    · obtain ⟨hbest, rfl⟩ := best_of_ok h.byCost hpick
      obtain ⟨hmem, hmin⟩ := firstMin_spec hbest
      obtain ⟨d', hd', hle⟩ := hnear _ _ (exists_rated hmem)
      have hge : d.totalMs ≤ d'.totalMs := hmin d' hd'.mem
      exact ⟨d', hd', abs_le.2 ⟨by linarith, by linarith⟩⟩

/-! ## Plain workers -/

/-- A healthy worker leads all workers by the router's own estimates, rounded. -/
def HealthyFirst (s : State K) (tokens : Int) : Prop :=
  ∃ p, Stats.Leads (fun q : String × Worker K => round1 (q.2.nlms.predict tokens)) s.predictors p ∧
    p.2.nlms.healthy = true

/-- Requests have tokens, no initial parameter is zero, and no estimate overflows. -/
structure Plain (cfg : Cfg K) (s : State K) (n : Int) : Prop where
  tokens : 1 ≤ n
  slope : cfg.initialSlope ≠ 0
  intercept : cfg.initialIntercept ≠ 0
  finite : ∀ p ∈ s.predictors, p.2.nlms.predict n < overflowMs

omit [FloorRing K] [IsStrictOrderedRing K] in
/-- The tool's figure is the estimate. -/
theorem shown_eq_predict {m : DualTimescaleNlms K} (hu : Uniform cfg m.model) (hblend : cfg.blend = 8 / 10)
    {tokens : Int} (ht : 1 ≤ tokens) (hs : cfg.initialSlope ≠ 0) (hi : cfg.initialIntercept ≠ 0) :
    shown m tokens = m.predict tokens := by
  obtain ⟨hfast, hslow⟩ := hu.slopes hs
  have hint := hu.intercept hi
  have hb : m.blend = 8 / 10 := hu.blend.trans hblend
  simp only [DualTimescaleNlms.model] at hfast hslow hint
  have hcount : (tokenCount tokens : K) = (tokens : K) := by
    unfold tokenCount
    rw [max_eq_right ht]
  unfold shown orElse DualTimescaleNlms.predict DualTimescaleNlms.effectiveSlope
  rw [if_neg hfast, if_neg hslow, if_neg hint, hcount, hb]
  cases hd : m.dual with
  | true => rfl
  | false =>
    have hsingle : m.slowSlope = m.fastSlope := hu.single hd
    rw [hsingle, if_neg Bool.false_ne_true]
    ring

omit [FloorRing K] [IsStrictOrderedRing K] in
/-- On an idle scheduler a cost is the estimate and what the tiers cost, which is the same for all. -/
theorem Idle.totalMs (h : Idle cfg s a) {p : String × Worker K} (hp : p ∈ s.predictors) :
    (decision cfg s p.1 p.2 a.count a.tier (cfg.prefixHash a.prompt)).totalMs =
      max 0 (p.2.nlms.predict a.count + tierCostMs cfg p.2.nlms a.tier) := by
  have heng := h.telemetry p hp
  have hwait : waitMs cfg p.2 a.count = 0 := by
    unfold waitMs
    split
    · rfl
    · rw [h.pending p hp, Nat.cast_zero, zero_div]
      exact zero_mul _
  have hvram : vramCostMs cfg p.2.nlms = 0 := if_neg fun hshort => absurd hshort.2.2 (not_lt.2 (h.vram p hp).2)
  have hhit : affinityHit cfg s p.1 (cfg.prefixHash a.prompt) = false := by
    unfold affinityHit
    rw [h.affinity]
    simp
  have hest : (estimate cfg p.2 a.count).1 = p.2.nlms.predict a.count := by
    unfold estimate
    rw [if_neg (by rw [h.strategy]; decide)]
    rfl
  unfold decision engineKvCostMs engineQueueCostMs enginePrefixMs
  simp only [heng, hwait, hvram, hhit, hest, Bool.false_eq_true, if_false, zero_add, add_zero, zero_mul, sub_zero]

omit [FloorRing K] [IsStrictOrderedRing K] in
/-- On an idle scheduler workers are blocked all or none. -/
theorem Idle.hardBlocked (h : Idle cfg s a) {p q : String × Worker K} (hp : p ∈ s.predictors) (hq : q ∈ s.predictors) :
    hardBlocked cfg s p.1 p.2.nlms a.count a.tier = hardBlocked cfg s q.1 q.2.nlms a.count a.tier := by
  have hone : ∀ r ∈ s.predictors, Scheduler.hardBlocked cfg s r.1 r.2.nlms a.count a.tier =
      (!cfg.ablation.disableTier && a.tier == "large" && r.2.nlms.tier != "large") := by
    intro r hr
    have hvram : decide (r.2.nlms.freeVramMb < cfg.vramHardMb) = false := decide_eq_false (not_lt.2 (h.vram r hr).1)
    unfold Scheduler.hardBlocked
    simp only [h.telemetry r hr, hvram, Bool.and_false, Bool.false_and, Bool.or_false, Bool.false_or]
  rw [hone p hp, hone q hq, h.tiers p hp q hq]

/-- What leads by the rounded estimates is near the cheapest. -/
theorem Idle.near (h : Idle cfg s a) (hn : (Dict.keys s.predictors).Nodup)
    (hfinite : ∀ p ∈ s.predictors, p.2.nlms.predict a.count < overflowMs) {p : String × Worker K}
    (hlead : Stats.Leads (fun q : String × Worker K => round1 (q.2.nlms.predict a.count)) s.predictors p)
    (hp : p.2.nlms.healthy = true) {v : String} {d : RoutingDecision K} (hv : Rated cfg s a v d) :
    ∃ d', Rated cfg s a p.1 d' ∧ d'.totalMs ≤ d.totalMs + 1 / 10 := by
  obtain ⟨-, w, hw, hd⟩ := hv
  have hmem : (v, w) ∈ s.predictors := Dict.mem_of_get? hw
  obtain ⟨hblocked, -, rfl⟩ := score_eq_some_iff.1 hd
  have hest : (estimate cfg p.2 a.count).1 = p.2.nlms.predict a.count := by
    unfold estimate
    rw [if_neg (by rw [h.strategy]; decide)]
    rfl
  refine ⟨_, ⟨?_, p.2, Dict.get?_of_mem_of_nodup hn hlead.mem, score_eq_some_iff.2 ⟨?_, ?_, rfl⟩⟩, ?_⟩
  · rw [h.unrestricted]
    exact (mem_healthyIds_of_mem hn hlead.mem).2 hp
  · exact (h.hardBlocked hlead.mem hmem).trans hblocked
  · rw [hest]
    exact hfinite p hlead.mem
  · have hnear := hlead.near (fun q _ => round1_error (q.2.nlms.predict a.count)) (v, w) hmem
    have htier : tierCostMs cfg p.2.nlms a.tier = tierCostMs cfg w.nlms a.tier := by
      unfold tierCostMs
      rw [h.tiers p hlead.mem (v, w) hmem]
    have hcost := h.totalMs hmem
    dsimp only at hcost hnear
    rw [h.totalMs hlead.mem, hcost, htier]
    have hpos : (0 : K) ≤ 1 / 10 := by positivity
    rcases le_total (p.2.nlms.predict a.count + tierCostMs cfg w.nlms a.tier) 0 with hle | hle
    · rw [max_eq_left hle]
      have hmax := le_max_left 0 (w.nlms.predict a.count + tierCostMs cfg w.nlms a.tier)
      linarith
    · rw [max_eq_right hle]
      have hmax := le_max_right 0 (w.nlms.predict a.count + tierCostMs cfg w.nlms a.tier)
      linarith

/-- With plain workers a healthy worker leads exactly when one leads by the router's estimates. -/
theorem led_iff_healthyFirst (h : Idle cfg s a) (hn : (Dict.keys s.predictors).Nodup)
    (hu : AllNlms (fun m => Uniform cfg m.model) s) (hplain : Plain cfg s a.count) :
    (∃ p, Led cfg s a p) ↔ HealthyFirst s a.count := by
  have hshown : ∀ q ∈ s.predictors, round1 (shown q.2.nlms a.count) = round1 (q.2.nlms.predict a.count) := by
    intro q hq
    rw [shown_eq_predict (hu q hq) h.blend hplain.tokens hplain.slope hplain.intercept]
  constructor
  · rintro ⟨p, hlead, hp, -⟩
    exact ⟨p, (Stats.leads_congr hshown).1 hlead, hp⟩
  · rintro ⟨p, hlead, hp⟩
    exact ⟨p, (Stats.leads_congr hshown).2 hlead, hp, fun v d hv => h.near hn hplain.finite hlead hp hv⟩

/-- On an idle scheduler the tool recommends what the router may pick exactly when a healthy worker leads
all workers by the tool's figures; with plain workers, exactly when one leads by the router's estimates. -/
theorem recommendation_agrees_iff {l : Ledger K} (hl : l.Reached cfg fun _ _ => True) (h : Idle cfg l.sched a)
    (model : Option String) :
    (Agrees cfg l.sched a (recommended floatOfText intOfText gatewayUrl cfg l.sched model a) ↔
        ∃ p, Led cfg l.sched a p) ∧
      (Plain cfg l.sched a.count →
        (Agrees cfg l.sched a (recommended floatOfText intOfText gatewayUrl cfg l.sched model a) ↔
          HealthyFirst l.sched a.count)) := by
  have hiff := agrees_iff_led floatOfText intOfText gatewayUrl h hl.nodup model
  refine ⟨hiff, fun hplain => hiff.trans ?_⟩
  exact led_iff_healthyFirst h hl.nodup (hl.uniform (by rw [h.strategy]; decide)) hplain

end Recommendation

/-! ## Two workers -/

/-- The defaults, with admission off. -/
def ungated : Cfg ℚ := { defaultCfg with admissionOff := true }

/-- Two workers alike, and one of them goes down. -/
def goesDown (id : String) : List (Move ℚ) :=
  [.register oneWorker, .register { oneWorker with id := "gpu1" }, .setHealthy id false]

def oneDown (id : String) : Ledger ℚ := Trace.play (Move.exec ungated) .init (goesDown id)

theorem reached_oneDown (id : String) : (oneDown id).Reached ungated fun _ _ => True :=
  ⟨goesDown id, ⟨⟨trivial, trivial⟩, ⟨trivial, trivial⟩, ⟨trivial, trivial⟩, trivial⟩, rfl⟩

def tenTokens : PickArgs := { prompt := "a", tokens := some 10 }

/-- No text is a number. -/
def noNumber {α : Type} (s : String) : Except String α := .error s!"could not convert string: {s}"

theorem recommendation_agrees_second : Agrees ungated (oneDown "gpu1").sched tenTokens
    (recommended noNumber noNumber "http://a" ungated (oneDown "gpu1").sched none tenTokens) := by
  have hidle : Idle ungated (oneDown "gpu1").sched tenTokens := by constructor <;> decide +kernel
  have hplain : Plain ungated (oneDown "gpu1").sched tenTokens.count := by constructor <;> decide +kernel
  refine ((recommendation_agrees_iff noNumber noNumber "http://a" (reached_oneDown "gpu1") hidle none).2 hplain).2 ?_
  exact ⟨_, ⟨[], _, rfl, List.forall_mem_nil _, by decide +kernel⟩, by decide +kernel⟩

/-- With the first of the two down the tool recommends it. -/
theorem unhealthy_recommended : Idle ungated (oneDown "gpu0").sched tenTokens ∧
    recommended noNumber noNumber "http://a" ungated (oneDown "gpu0").sched none tenTokens = some "gpu0" ∧
    ¬Agrees ungated (oneDown "gpu0").sched tenTokens
      (recommended noNumber noNumber "http://a" ungated (oneDown "gpu0").sched none tenTokens) := by
  have hrec : recommended noNumber noNumber "http://a" ungated (oneDown "gpu0").sched none tenTokens = some "gpu0" := by
    decide +kernel
  refine ⟨by constructor <;> decide +kernel, hrec, ?_⟩
  rintro ⟨id, hid, hhealthy, -⟩
  rw [hrec] at hid
  cases hid
  revert hhealthy
  decide +kernel

end Dio.Mcp
