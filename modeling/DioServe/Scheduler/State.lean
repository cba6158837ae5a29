/-
The scheduler's configuration and state (`scheduler.py`) and every operation on it but `pick`:
registration, health, telemetry, and the closing of admitted requests.
-/
import DioServe.Data.Dict
import DioServe.Scheduler.Learner

namespace Dio.Scheduler

open Data

/-! ## Configuration -/

inductive Strategy
  | nlms | rls | ewma | static | roundRobin | leastLoaded
  deriving DecidableEq, Repr

def Strategy.name : Strategy → String
  | .nlms => "nlms"
  | .rls => "rls"
  | .ewma => "ewma"
  | .static => "static"
  | .roundRobin => "round_robin"
  | .leastLoaded => "least_loaded"

inductive AdmissionMode
  | absolute | empirical | strict | rankOnly
  deriving DecidableEq, Repr

def AdmissionMode.name : AdmissionMode → String
  | .absolute => "absolute"
  | .empirical => "empirical"
  | .strict => "strict"
  | .rankOnly => "rank_only"

/-- `AblationFlags`. -/
structure AblationFlags where
  disableQueue : Bool := false
  disableVramSoft : Bool := false
  disableVramHard : Bool := false
  disableTier : Bool := false
  disableCache : Bool := false
  singleTimescale : Bool := false

/-- The arguments of `Scheduler(...)`, and the prefix hash of `_prefix_hash`. -/
structure Cfg (K : Type) where
  strategy : Strategy
  dual : Bool
  ablation : AblationFlags
  sloMs : K
  admissionOff : Bool
  admissionMode : AdmissionMode
  admissionPercentile : K
  recentLatencyWindow : Nat
  batchSize : K
  tierMismatchMs : K
  cacheBonusMs : K
  vramSoftMb : K
  vramHardMb : K
  kvCacheCostMs : K
  engineQueueCostMs : K
  enginePrefixHitBonusMs : K
  useEngineMetrics : Bool
  muFast : K
  muSlow : K
  muBias : K
  blend : K
  initialSlope : K
  initialIntercept : K
  staticSlope : K
  staticIntercept : K
  decisionLogSize : Nat
  predHistorySize : Nat
  affinityCacheSize : Nat
  healthIntervalS : K
  learnerRobust : Bool
  learnerErrClip : K
  learnerStepFrac : K
  learnerSlopeMax : K
  learnerInterceptMax : K
  prefixHash : String → Nat

/-! ## State -/

/-- The dictionaries `predictors`, `rls`, `ewma_e2e` and `ewma_samples` at one worker. -/
structure Worker (K : Type) where
  nlms : DualTimescaleNlms K
  rls : SimpleRls K
  ewmaE2e : K
  ewmaSamples : Nat

/-- The fields of `EngineSnapshot` the scheduler reads. -/
structure EngineSnapshot (K : Type) where
  kvCacheUsage : K
  numWaiting : K
  prefixHitRate : K
  ok : Bool

/-- `RoutingDecision`. -/
structure RoutingDecision (K : Type) where
  workerId : String
  execMs : K
  waitMs : K
  tierCostMs : K
  vramCostMs : K
  cacheBonusMs : K
  totalMs : K
  tokens : Int
  strategy : Strategy
  engineKvCostMs : K
  engineQueueCostMs : K
  enginePrefixBonusMs : K
  bonusClampedMs : K
  affinityHit : Bool

/-- `AdmissionStats`. -/
structure AdmissionStats (K : Type) where
  admitted : Nat
  rejectedSlo : Nat
  rejectedVram : Nat
  rejectedNoWorker : Nat
  completedUnderSlo : Nat
  completedOverSlo : Nat
  completedTotal : Nat
  failedTotal : Nat
  sumE2eMs : K
  wouldRejectAbsolute : Nat
  rejectedSloSuppressed : Nat
  wouldAdmitAbsolute : Nat
  absoluteVsActiveDisagree : Nat

/-- One entry of `pred_history`. -/
structure PredSample (K : Type) where
  workerId : String
  tokens : Int
  info : UpdateInfo K
  mode : String

/-- The mutable attributes of `Scheduler`. -/
structure State (K : Type) where
  predictors : Dict String (Worker K)
  prefixCache : Dict Nat String
  engineSnap : Dict String (EngineSnapshot K)
  rrIndex : Nat
  affinityDecisions : Nat
  affinityHits : Nat
  affinityEvictions : Nat
  failStreak : Dict String Nat
  decisionLog : List (RoutingDecision K)
  predHistory : List (PredSample K)
  recentE2e : List K
  admission : AdmissionStats K
  lastDecision : Option (RoutingDecision K)

variable {K : Type}

/-- `{wid for wid, p in self.predictors.items() if p.healthy}`, in registration order. -/
def State.healthyIds (s : State K) : List String :=
  (s.predictors.filter fun p => p.2.nlms.healthy).map Prod.fst

/-- Change one registered worker's learner and slot record. -/
def State.onNlms (s : State K) (workerId : String) (f : DualTimescaleNlms K → DualTimescaleNlms K) : State K :=
  { s with predictors := Dict.modify s.predictors workerId fun w => { w with nlms := f w.nlms } }

@[simp] theorem State.onNlms_recentE2e (s : State K) (w : String) (f : DualTimescaleNlms K → DualTimescaleNlms K) :
    (s.onNlms w f).recentE2e = s.recentE2e := rfl

@[simp] theorem State.onNlms_admission (s : State K) (w : String) (f : DualTimescaleNlms K → DualTimescaleNlms K) :
    (s.onNlms w f).admission = s.admission := rfl

@[simp] theorem State.onNlms_engineSnap (s : State K) (w : String) (f : DualTimescaleNlms K → DualTimescaleNlms K) :
    (s.onNlms w f).engineSnap = s.engineSnap := rfl

@[simp] theorem State.onNlms_keys (s : State K) (w : String) (f : DualTimescaleNlms K → DualTimescaleNlms K) :
    Dict.keys (s.onNlms w f).predictors = Dict.keys s.predictors := by
  simp [State.onNlms]

theorem State.get?_onNlms (s : State K) (w v : String) (f : DualTimescaleNlms K → DualTimescaleNlms K) :
    Dict.get? (s.onNlms w f).predictors v =
      if v = w then (Dict.get? s.predictors v).map fun x => { x with nlms := f x.nlms } else Dict.get? s.predictors v :=
  Dict.get?_modify w v (fun x : Worker K => { x with nlms := f x.nlms }) s.predictors

/-- `pred.pending -= 1` when positive. -/
def DualTimescaleNlms.free (m : DualTimescaleNlms K) : DualTimescaleNlms K :=
  if m.pending > 0 then { m with pending := m.pending - 1 } else m

variable [Field K] [LinearOrder K]

/-- The counters of a fresh `AdmissionStats`. -/
def AdmissionStats.zero : AdmissionStats K := ⟨0, 0, 0, 0, 0, 0, 0, 0, 0, 0, 0, 0, 0⟩

/-- `goodput_fraction` of `snapshot`. -/
def AdmissionStats.goodputFraction (a : AdmissionStats K) : K :=
  if a.completedTotal + a.failedTotal = 0 then 0
  else (a.completedUnderSlo : K) / ((a.completedTotal + a.failedTotal : Nat) : K)

/-- The state of a new `Scheduler`. -/
def State.init : State K := ⟨[], [], [], 0, 0, 0, 0, [], [], [], [], .zero, none⟩

namespace Cfg

/-- The defaults of `Scheduler(...)`. -/
def default (hash : String → Nat) : Cfg K where
  strategy := .nlms
  dual := true
  ablation := {}
  sloMs := 5000
  admissionOff := false
  admissionMode := .empirical
  admissionPercentile := 95
  recentLatencyWindow := 64
  batchSize := 8
  tierMismatchMs := 500
  cacheBonusMs := 200
  vramSoftMb := 4096
  vramHardMb := 2400
  kvCacheCostMs := 800
  engineQueueCostMs := 50
  enginePrefixHitBonusMs := 150
  useEngineMetrics := true
  muFast := 1 / 10
  muSlow := 1 / 100
  muBias := 5 / 1000
  blend := 8 / 10
  initialSlope := 2
  initialIntercept := 150
  staticSlope := 1
  staticIntercept := 50
  decisionLogSize := 200
  predHistorySize := 5000
  affinityCacheSize := 2048
  healthIntervalS := 5
  learnerRobust := true
  learnerErrClip := 2
  learnerStepFrac := 5 / 100
  learnerSlopeMax := 200
  learnerInterceptMax := 10 ^ 6
  prefixHash := hash

def isDual (cfg : Cfg K) : Bool := cfg.dual && !cfg.ablation.singleTimescale

/-- `self.batch_size`: positive, whatever was configured. -/
def batch (cfg : Cfg K) : K := if cfg.batchSize > 0 then cfg.batchSize else 8

/-- The `maxlen` of `recent_e2e`. -/
def recentMax (cfg : Cfg K) : Nat := max 8 cfg.recentLatencyWindow

/-- The capacity of `prefix_cache`. -/
def affinityMax (cfg : Cfg K) : Nat := max 16 cfg.affinityCacheSize

def ewmaPriorMs : K := 5000

end Cfg

/-! ## Registration, health and telemetry -/

section Ops

variable (cfg : Cfg K)

/-- The worker `register` creates. -/
def newWorker (tier : String) (totalVramMb : K) (freeVramMb : Option K) : Worker K :=
  let frozen := cfg.strategy = .static
  { nlms :=
      { robust := cfg.learnerRobust
        errClip := cfg.learnerErrClip
        stepFrac := cfg.learnerStepFrac
        slopeMax := cfg.learnerSlopeMax
        interceptMax := cfg.learnerInterceptMax
        clippedUpdates := 0
        clipStreak := 0
        contendedUpdates := 0
        recent := []
        inflightLog := []
        muFast := cfg.muFast
        muSlow := cfg.muSlow
        muBias := cfg.muBias
        blend := cfg.blend
        fastSlope := if frozen then cfg.staticSlope else cfg.initialSlope
        slowSlope := if frozen then cfg.staticSlope else cfg.initialSlope
        intercept := if frozen then cfg.staticIntercept else cfg.initialIntercept
        avgLatency := 0
        dual := cfg.isDual && !frozen
        frozen := frozen
        tier := tier
        totalVramMb := totalVramMb
        updateCount := 0
        sumAbs := 0
        sumRel := 0
        sumSq := 0
        pending := 0
        freeVramMb := freeVramMb.getD totalVramMb
        healthy := true }
    rls := .init cfg.initialSlope cfg.initialIntercept
    ewmaE2e := Cfg.ewmaPriorMs
    ewmaSamples := 0 }

def register (s : State K) (workerId tier : String) (totalVramMb : K) (freeVramMb : Option K) : State K :=
  { s with predictors := Dict.set s.predictors workerId (newWorker cfg tier totalVramMb freeVramMb) }

def unregister (s : State K) (workerId : String) : State K :=
  { s with predictors := Dict.erase s.predictors workerId }

def setVram (s : State K) (workerId : String) (freeMb : K) : State K :=
  s.onNlms workerId fun m => { m with freeVramMb := freeMb }

/-- `set_engine_metrics`: store the snapshot and map KV usage to a free-VRAM estimate. -/
def setEngineMetrics (s : State K) (workerId : String) (snap : EngineSnapshot K) : State K :=
  let s := { s with engineSnap := Dict.set s.engineSnap workerId snap }
  -- a failed scrape is stored as well, but leaves the free VRAM alone
  if snap.ok then
    s.onNlms workerId fun m =>
      if m.totalVramMb > 0 ∧ snap.kvCacheUsage ≥ 0 then
        { m with freeVramMb := max 0 (m.totalVramMb * (1 - snap.kvCacheUsage)) }
      else m
  else s

def setHealthy (s : State K) (workerId : String) (healthy : Bool) : State K :=
  let s' := s.onNlms workerId fun m => { m with healthy := healthy }
  -- only a recovery ends the streak
  if Dict.contains s.predictors workerId && healthy then
    { s' with failStreak := Dict.set s.failStreak workerId 0 }
  else s'

/-- `note_failure`: unhealthy after `threshold` failures in a row. -/
def noteFailure (s : State K) (workerId : String) (threshold : Nat) : Bool × State K :=
  let streak := (Dict.get? s.failStreak workerId).getD 0 + 1
  let s := { s with failStreak := Dict.set s.failStreak workerId streak }
  if streak ≥ threshold then (true, s.onNlms workerId fun m => { m with healthy := false }) else (false, s)

def noteSuccess (s : State K) (workerId : String) : State K :=
  { s with failStreak := Dict.set s.failStreak workerId 0 }

/-! ## Closing an admitted request -/

def release (s : State K) (workerId : String) : State K := s.onNlms workerId .free

/-- The worker after a successful request: the learners, the EWMA and its sample count. -/
def Worker.learn (w : Worker K) (e2eMs : K) (tokens : Int) (inflight : Nat) : Worker K :=
  { nlms := (w.nlms.update e2eMs tokens inflight).2
    rls := w.rls.update e2eMs tokens
    ewmaE2e := if w.ewmaSamples = 0 then e2eMs else 1 / 5 * e2eMs + (1 - 1 / 5) * w.ewmaE2e
    ewmaSamples := w.ewmaSamples + 1 }

/-- The counters after a successful request. -/
def AdmissionStats.complete (a : AdmissionStats K) (sloMs e2eMs : K) : AdmissionStats K :=
  { a with
    completedTotal := a.completedTotal + 1
    sumE2eMs := a.sumE2eMs + e2eMs
    completedUnderSlo := if e2eMs ≤ sloMs then a.completedUnderSlo + 1 else a.completedUnderSlo
    completedOverSlo := if e2eMs ≤ sloMs then a.completedOverSlo else a.completedOverSlo + 1 }

/-- The `pred_history` entry of a successful request on a registered worker. -/
def predSample (w : Worker K) (workerId : String) (e2eMs : K) (tokens : Int) (inflight : Nat) : PredSample K :=
  ⟨workerId, tokens, (w.nlms.update e2eMs tokens inflight).1, (w.nlms.update e2eMs tokens inflight).2.mode⟩

/-- `inflight_log.popleft()`, 1 when the log is empty or the worker unknown. -/
def admittedDepth (s : State K) (workerId : String) : Nat :=
  match Dict.get? s.predictors workerId with
  | some w => w.nlms.inflightLog.headD 1
  | none => 1

/-- The success branch of `feedback`. -/
def completed (s : State K) (workerId : String) (e2eMs : K) (tokens : Int) (inflight : Nat) : State K :=
  { s with
    predictors := Dict.modify s.predictors workerId fun w => w.learn e2eMs tokens inflight
    predHistory := match Dict.get? s.predictors workerId with
      | some w => Deque.push cfg.predHistorySize s.predHistory (predSample w workerId e2eMs tokens inflight)
      | none => s.predHistory
    -- counted and sampled even when the worker is gone
    admission := s.admission.complete cfg.sloMs e2eMs
    recentE2e := Deque.push cfg.recentMax s.recentE2e e2eMs
    failStreak := Dict.set s.failStreak workerId 0 }

/-- The failure branch of `feedback`. -/
def failed (s : State K) : State K :=
  { s with admission := { s.admission with failedTotal := s.admission.failedTotal + 1 } }

/-- `feedback`: record the outcome of one request and free its slot. -/
def feedback (s : State K) (workerId : String) (e2eMs : K) (tokens : Int) (success : Bool) : State K :=
  -- the depth is read off the log before its oldest entry goes
  let inflight := admittedDepth s workerId
  let s := s.onNlms workerId fun m => { m with inflightLog := m.inflightLog.tail }
  let s := if success then completed cfg s workerId e2eMs tokens inflight else failed s
  s.onNlms workerId .free

def resetStats (s : State K) : State K :=
  { s with
    admission := .zero
    predHistory := []
    decisionLog := []
    affinityDecisions := 0
    affinityHits := 0
    affinityEvictions := 0
    prefixCache := []
    failStreak := [] }

end Ops

end Dio.Scheduler
