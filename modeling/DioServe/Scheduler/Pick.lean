/-
`Scheduler.pick` (`scheduler.py`): the joint cost of a worker, the admission gate on observed
latency, and the selection of a worker under each strategy.
-/
import DioServe.Scheduler.State

namespace Dio.Scheduler

open Data

/-- `min(xs, key=key)`: the first element with the least key. -/
def firstMin {α β : Type} [LinearOrder β] (key : α → β) : List α → Option α
  | [] => none
  | x :: xs => some (xs.foldl (fun b y => if key y < key b then y else b) x)

/-- `AdmissionError`. -/
structure AdmissionError where
  message : String
  retryAfterSec : Int
  deriving DecidableEq, Repr

variable {K : Type} [Field K] [LinearOrder K]

/-! ## The cost of a worker -/

section Score

variable (cfg : Cfg K) (s : State K)

/-- The scraped telemetry that counts: enabled and from a successful scrape. -/
def engine (workerId : String) : Option (EngineSnapshot K) :=
  if cfg.useEngineMetrics then (Dict.get? s.engineSnap workerId).filter (·.ok) else none

/-- The hard blocks of `_score`: free VRAM, engine-reported KV usage, tier. -/
def hardBlocked (workerId : String) (m : DualTimescaleNlms K) (tokens : Int) (tier : String) : Bool :=
  -- a free VRAM of 0 or less blocks nothing
  let vram := 0 < m.freeVramMb && m.freeVramMb < cfg.vramHardMb && 1000 < tokens
  let kv := match engine cfg s workerId with
    | some eng => decide (eng.kvCacheUsage > 95 / 100) && 500 < tokens
    | none => false
  (!cfg.ablation.disableVramHard && (vram || kv)) || (!cfg.ablation.disableTier && tier == "large" && m.tier != "large")

/-- The estimate that ranks: the RLS baseline's under its strategy, else the NLMS's. -/
def estimate (w : Worker K) (tokens : Int) : K × K :=
  if cfg.strategy = .rls then w.rls.estimate tokens else w.nlms.estimate tokens

def waitMs (w : Worker K) (tokens : Int) : K :=
  if cfg.ablation.disableQueue then 0
  else
    let (execMs, avg) := estimate cfg w tokens
    (w.nlms.pending : K) / cfg.batch * if avg > 0 then avg else execMs

def tierCostMs (m : DualTimescaleNlms K) (tier : String) : K :=
  if !cfg.ablation.disableTier && tier == "small" && m.tier == "large" then cfg.tierMismatchMs else 0

def vramCostMs (m : DualTimescaleNlms K) : K :=
  if cfg.ablation.disableVramSoft = false ∧ m.totalVramMb > 0 ∧ m.freeVramMb < cfg.vramSoftMb then
    (1 - m.freeVramMb / m.totalVramMb) * 1000
  else 0

def engineKvCostMs (workerId : String) : K :=
  match engine cfg s workerId with
  | some eng => eng.kvCacheUsage * cfg.kvCacheCostMs
  | none => 0

def engineQueueCostMs (workerId : String) : K :=
  match engine cfg s workerId with
  | some eng => eng.numWaiting * cfg.engineQueueCostMs
  | none => 0

/-- The prefix bonus before clamping. -/
def enginePrefixMs (workerId : String) : K :=
  match engine cfg s workerId with
  | some eng => eng.prefixHitRate * cfg.enginePrefixHitBonusMs
  | none => 0

def affinityHit (workerId : String) (pkey : Nat) : Bool :=
  !cfg.ablation.disableCache && decide (Dict.get? s.prefixCache pkey = some workerId)

/-- The factor that clamps the bonuses to the predicted service time. -/
def bonusScale (bonusRaw bonusAllowed : K) : K :=
  if bonusRaw ≤ 0 ∨ bonusRaw ≤ bonusAllowed then 1 else bonusAllowed / bonusRaw

/-- The breakdown `_score` reports for an unblocked worker. -/
def decision (workerId : String) (w : Worker K) (tokens : Int) (tier : String) (pkey : Nat) : RoutingDecision K :=
  let execMs := (estimate cfg w tokens).1
  let wait := waitMs cfg w tokens
  let tierCost := tierCostMs cfg w.nlms tier
  let vramCost := vramCostMs cfg w.nlms
  let engKv := engineKvCostMs cfg s workerId
  let engQ := engineQueueCostMs cfg s workerId
  let hit := affinityHit cfg s workerId pkey
  let cacheBonus := if hit then cfg.cacheBonusMs else 0
  let engPref := enginePrefixMs cfg s workerId
  let scale := bonusScale (cacheBonus + engPref) (max 0 (wait + execMs))
  { workerId := workerId
    execMs := execMs
    waitMs := wait
    tierCostMs := tierCost
    vramCostMs := vramCost
    cacheBonusMs := cacheBonus * scale + engPref * scale
    totalMs := max 0 (wait + execMs + tierCost + vramCost + engKv + engQ - cacheBonus * scale - engPref * scale)
    tokens := tokens
    strategy := cfg.strategy
    engineKvCostMs := engKv
    engineQueueCostMs := engQ
    enginePrefixBonusMs := engPref * scale
    bonusClampedMs := cacheBonus + engPref - (cacheBonus * scale + engPref * scale)
    affinityHit := hit }

/-- From this estimate on `_score` treats a worker as blocked. -/
def overflowMs : K := 10 ^ 300

/-- `_score`: the breakdown, or none when the worker is blocked for this request. -/
def score (workerId : String) (w : Worker K) (tokens : Int) (tier : String) (pkey : Nat) : Option (RoutingDecision K) :=
  if hardBlocked cfg s workerId w.nlms tokens tier then none
  -- a learner that blew up takes its worker out of the ranking
  else if (estimate cfg w tokens).1 ≥ overflowMs then none
  else some (decision cfg s workerId w tokens tier pkey)

end Score

/-! ## The admission gate -/

variable [FloorRing K]

/-- Rounding to an integer, halves to even. -/
def roundHalfEven (x : K) : Int :=
  let r := x - ⌊x⌋
  if r < 1 / 2 then ⌊x⌋ else if r > 1 / 2 then ⌊x⌋ + 1 else if ⌊x⌋ % 2 = 0 then ⌊x⌋ else ⌊x⌋ + 1

/-- `f"{x:.0f}"`. -/
def fixed0 (x : K) : String := toString (roundHalfEven x)

/-- `self.recovery_hint_s`. -/
def Cfg.recoveryHintS (cfg : Cfg K) : Int :=
  max 1 (roundHalfEven (if cfg.healthIntervalS = 0 then 5 else cfg.healthIntervalS))

/-- What `_should_reject_slo` returns, and whether it counts a suppressed rejection. -/
structure Verdict where
  reject : Bool
  reason : String
  suppressed : Bool := false

/-- The observed tail the gate looks at. -/
def observedTail (cfg : Cfg K) (recent : List K) : K := Stats.percentile recent cfg.admissionPercentile

/-- The best candidate is in the worst quartile of the candidates. -/
def worstQuartile (bestScore : K) (scores : List K) : Bool :=
  if 2 ≤ scores.length then decide (bestScore ≥ Stats.percentile scores 75 - 1 / 10 ^ 9) else true

/-- The `strict` gate: shed whenever the observed tail exceeds the SLO. -/
def strictGate (cfg : Cfg K) (recent : List K) : Verdict :=
  if recent.length < 8 then ⟨false, "strict_warmup", false⟩
  else if observedTail cfg recent > cfg.sloMs then
    let p := fixed0 cfg.admissionPercentile
    let tail := fixed0 (observedTail cfg recent)
    ⟨true, s!"strict_p{p}={tail}>SLO", false⟩
  else ⟨false, "strict_ok", false⟩

/-- The `empirical` gate: shed when the tail exceeds the SLO and no candidate stands out. -/
def empiricalGate (cfg : Cfg K) (recent : List K) (bestScore : K) (scores : List K) : Verdict :=
  if recent.length < 8 then ⟨false, "empirical_warmup", false⟩
  else if observedTail cfg recent > cfg.sloMs then
    if worstQuartile bestScore scores then
      let p := fixed0 cfg.admissionPercentile
      let tail := fixed0 (observedTail cfg recent)
      ⟨true, s!"empirical_p{p}={tail}>SLO", false⟩
    else ⟨false, "empirical_ok_better_backend_available", true⟩
  else ⟨false, "empirical_ok", false⟩

/-- The `absolute` gate: shed when the least predicted cost exceeds the SLO. -/
def absoluteGate (cfg : Cfg K) (bestScore : K) : Verdict :=
  if bestScore > cfg.sloMs then
    let shown := fixed0 bestScore
    ⟨true, s!"absolute_score={shown}>SLO", false⟩
  else ⟨false, "absolute_ok", false⟩

/-- `_should_reject_slo`. -/
def shouldRejectSlo (cfg : Cfg K) (recent : List K) (bestScore : K) (scores : List K) : Verdict :=
  if cfg.admissionOff then ⟨false, "rank_only", false⟩
  else match cfg.admissionMode with
    | .rankOnly => ⟨false, "rank_only", false⟩
    | .strict => strictGate cfg recent
    | .empirical => empiricalGate cfg recent bestScore scores
    | .absolute => absoluteGate cfg bestScore

/-! ## Selection -/

abbrev Picked (K : Type) := Except AdmissionError (String × RoutingDecision K) × State K

section Pick

variable (cfg : Cfg K)

/-- `_mark_admitted`. -/
def DualTimescaleNlms.markAdmitted (m : DualTimescaleNlms K) : DualTimescaleNlms K :=
  { m with
    pending := m.pending + 1
    inflightLog := Deque.push inflightMax m.inflightLog (m.pending + 1) }

/-- What every admission does: take the slot, count it, log the decision. -/
def admitted (s : State K) (d : RoutingDecision K) : State K :=
  let s := s.onNlms d.workerId .markAdmitted
  { s with
    admission := { s.admission with admitted := s.admission.admitted + 1 }
    decisionLog := Deque.push cfg.decisionLogSize s.decisionLog d }

def rejectNoWorker (s : State K) (message : String) : Picked K :=
  (.error ⟨message, cfg.recoveryHintS⟩,
    { s with admission := { s.admission with rejectedNoWorker := s.admission.rejectedNoWorker + 1 } })

/-- The decision of the strategies without a cost model. -/
def plainDecision (workerId : String) (tokens : Int) : RoutingDecision K :=
  ⟨workerId, 0, 0, 0, 0, 0, 0, tokens, cfg.strategy, 0, 0, 0, 0, false⟩

def pending (s : State K) (workerId : String) : Nat :=
  ((Dict.get? s.predictors workerId).map (·.nlms.pending)).getD 0

def pickRoundRobin (s : State K) (ids : List String) (tokens : Int) : Picked K :=
  -- the index runs over the eligible workers, not over all
  let i := (s.rrIndex + 1) % ids.length
  let s := { s with rrIndex := i }
  let d := plainDecision cfg (ids.getD i "") tokens
  (.ok (d.workerId, d), admitted cfg s d)

def pickLeastLoaded (s : State K) (ids : List String) (tokens : Int) : Picked K :=
  let d := plainDecision cfg ((firstMin (pending s) ids).getD "") tokens
  (.ok (d.workerId, d), admitted cfg s d)

/-- The decision of the EWMA strategy for one worker. -/
def ewmaDecision (s : State K) (workerId : String) (tokens : Int) : RoutingDecision K :=
  let ewma := ((Dict.get? s.predictors workerId).map (·.ewmaE2e)).getD Cfg.ewmaPriorMs
  let wait := (pending s workerId : K) / max 1 cfg.batch * ewma
  ⟨workerId, ewma, wait, 0, 0, 0, ewma + wait, tokens, cfg.strategy, 0, 0, 0, 0, false⟩

def ewmaSamples (s : State K) (workerId : String) : Nat :=
  ((Dict.get? s.predictors workerId).map (·.ewmaSamples)).getD 0

def admitEwma (s : State K) (d : RoutingDecision K) : Picked K :=
  (.ok (d.workerId, d), { admitted cfg s d with lastDecision := some d })

def pickEwma (s : State K) (ids : List String) (tokens : Int) : Picked K :=
  -- visit every worker at least once before exploiting the average
  match firstMin (pending s) (ids.filter fun w => ewmaSamples s w = 0) with
  | some w => admitEwma cfg s (ewmaDecision cfg s w tokens)
  | none =>
    match firstMin (·.totalMs) (ids.map fun w => ewmaDecision cfg s w tokens) with
    | some d => admitEwma cfg s d
    | none => rejectNoWorker cfg s "no feasible backend"

/-- The unblocked candidates, in registration order. -/
def candidates (s : State K) (ids : List String) (tokens : Int) (tier : String) (pkey : Nat) :
    List (RoutingDecision K) :=
  ids.filterMap fun w => (Dict.get? s.predictors w).bind fun x => score cfg s w x tokens tier pkey

/-- The diagnostic counters: what the absolute gate would have said, against the active one. -/
def compareAbsolute (a : AdmissionStats K) (bestScore : K) (v : Verdict) : AdmissionStats K :=
  let reject := decide (bestScore > cfg.sloMs)
  { a with
    wouldRejectAbsolute := if reject then a.wouldRejectAbsolute + 1 else a.wouldRejectAbsolute
    wouldAdmitAbsolute := if reject then a.wouldAdmitAbsolute else a.wouldAdmitAbsolute + 1
    rejectedSloSuppressed := if v.suppressed then a.rejectedSloSuppressed + 1 else a.rejectedSloSuppressed
    absoluteVsActiveDisagree :=
      if reject ≠ v.reject then a.absoluteVsActiveDisagree + 1 else a.absoluteVsActiveDisagree }

/-- `prefix_cache[pkey] = worker` as the newest entry, the oldest beyond the capacity evicted. -/
def remember (s : State K) (pkey : Nat) (workerId : String) : State K :=
  let cache := Dict.setLast s.prefixCache pkey workerId
  let excess := cache.length - cfg.affinityMax
  { s with prefixCache := cache.drop excess, affinityEvictions := s.affinityEvictions + excess }

/-- What an admission by cost records. -/
def admittedByCost (s : State K) (pkey : Nat) (d : RoutingDecision K) : State K :=
  let s := admitted cfg (remember cfg s pkey d.workerId) d
  { s with
    affinityDecisions := s.affinityDecisions + 1
    affinityHits := if d.affinityHit then s.affinityHits + 1 else s.affinityHits
    lastDecision := some d }

/-- No candidate was found. -/
def rejectInfeasible (s : State K) (cands : List (RoutingDecision K)) : Picked K :=
  -- reached in the source only when every candidate's cost is infinite
  if cands ≠ [] then
    (.error ⟨"all backends VRAM/tier blocked", 2⟩,
      { s with admission := { s.admission with rejectedVram := s.admission.rejectedVram + 1 } })
  else rejectNoWorker cfg s "no feasible backend"

/-- The gate sheds the request. -/
def rejectSlo (s : State K) (bestScore : K) (v : Verdict) : Picked K :=
  let mode := cfg.admissionMode.name
  let reason := v.reason
  (.error ⟨s!"admission rejected ({mode}: {reason})", max 1 ⌊bestScore / 1000⌋⟩,
    { s with admission := { s.admission with rejectedSlo := s.admission.rejectedSlo + 1 } })

/-- The gate decides about the best candidate. -/
def admitOrShed (s : State K) (pkey : Nat) (best : RoutingDecision K) (scores : List K) : Picked K :=
  let v := shouldRejectSlo cfg s.recentE2e best.totalMs scores
  -- compared before the gate acts, so shed requests count as well
  let s := { s with admission := compareAbsolute cfg s.admission best.totalMs v }
  if v.reject then rejectSlo cfg s best.totalMs v else (.ok (best.workerId, best), admittedByCost cfg s pkey best)

/-- The strategies that rank by the joint cost. -/
def pickCost (s : State K) (ids : List String) (prompt : String) (tokens : Int) (tier : String) : Picked K :=
  let pkey := cfg.prefixHash prompt
  let cands := candidates cfg s ids tokens tier pkey
  match firstMin (·.totalMs) cands with
  | none => rejectInfeasible cfg s cands
  | some best => admitOrShed cfg s pkey best (cands.map (·.totalMs))

/-- The arguments of one `pick`. -/
structure PickArgs where
  prompt : String
  tier : String := "small"
  tokens : Option Int := none
  allowedBackends : Option (List String) := none

/-- The ids a pick may choose from. -/
def eligible (s : State K) (allowed : Option (List String)) : List String :=
  match allowed with
  | none => s.healthyIds
  | some ids => s.healthyIds.filter (· ∈ ids)

/-- `pick`. -/
def pick (s : State K) (a : PickArgs) : Picked K :=
  let tokens := a.tokens.getD (max 1 (a.prompt.length / 4 : Int))
  let ids := eligible s a.allowedBackends
  if ids = [] then rejectNoWorker cfg s "no healthy backends registered"
  else match cfg.strategy with
    | .roundRobin => pickRoundRobin cfg s ids tokens
    | .leastLoaded => pickLeastLoaded cfg s ids tokens
    | .ewma => pickEwma cfg s ids tokens
    | .nlms | .rls | .static => pickCost cfg s ids a.prompt tokens a.tier

end Pick

end Dio.Scheduler
