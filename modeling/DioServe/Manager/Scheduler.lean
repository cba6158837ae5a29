/-
The Go manager's scheduler (`DIO/internal/scheduler`: `cost.go`, `loadbalancer.go`, `metrics.go`, `admission.go`,
`slo.go`): one scalar cost for each worker, the strategies, admission and feedback. Go leaves the order of a loop over
a map open, so an operation that loops over the workers is given the order that it meets them in.
-/
import DioServe.Data.Dict
import DioServe.Manager.Predictor
import Mathlib.Algebra.Order.Floor.Ring

namespace Dio.Manager

open Data

variable {K : Type}

/-! ## The environment -/

/-- An environment variable that should hold a float. -/
inductive EnvFloat (K : Type)
  | unset
  | unreadable
  | value (f : K)

inductive Strategy
  | roundRobin
  | leastLoaded
  | latencyBased
  | session
  | rls
  | static
  | nlms
  | other (name : String)
  deriving DecidableEq

structure AblationFlags where
  disableQueue : Bool
  disableVramSoft : Bool
  disableVramHard : Bool
  disableTier : Bool
  disableCache : Bool
  singleTimescale : Bool

/-- What the manager reads of its environment. -/
structure Env (K : Type) where
  strategy : Strategy
  nlmsSingle : Bool
  ablation : AblationFlags
  dioSloMs : EnvFloat K
  admissionDisabled : Bool
  staticSlope : EnvFloat K
  staticIntercept : EnvFloat K

section Settings

variable [Field K] [LinearOrder K] (env : Env K)

/-- `EffectiveSLOMs`. -/
def Env.effectiveSloMs : K :=
  match env.dioSloMs with
  | .value f => if f > 0 then f else sloTtftMs
  | _ => sloTtftMs

/-- A prior of a static profile: one that is set and unreadable leaves the learner's. -/
def EnvFloat.prior (v : EnvFloat K) (default learned : K) : K :=
  match v with
  | .unset => default
  | .unreadable => learned
  | .value f => f

/-- The strategies whose pick is held against the SLO. -/
def Strategy.admits : Strategy → Bool
  | .nlms | .rls | .static => true
  | _ => false

/-- The strategies that pick by cost. -/
def Strategy.predictive : Strategy → Bool
  | .roundRobin | .leastLoaded | .latencyBased | .session => false
  | _ => true

end Settings

/-! ## The state -/

/-- `registry.Worker`, of which the scheduler sets the health at registration and never again. -/
structure Worker where
  address : String
  isHealthy : Bool
  lastKnownVram : Int
  pendingTasks : Nat

/-- A worker and its two predictors. -/
structure Entry (K : Type) where
  worker : Worker
  nlms : PerWorkerPredictor K
  rls : PerWorkerRlsPredictor K

structure RoutingDecision (K : Type) where
  workerId : String
  execMs : K
  waitMs : K
  tierCostMs : K
  vramCostMs : K
  cacheBonusMs : K
  totalMs : K
  tokens : Int

structure AdmissionStats where
  admitted : Nat
  rejectedSlo : Nat
  rejectedVram : Nat
  rejectedNoWorker : Nat
  completedUnderSlo : Nat
  completedOverSlo : Nat
  completedTotal : Nat
  sumE2eMs : Nat
  sumPredictedMs : Nat

structure PredSample (K : Type) where
  workerId : String
  tokens : Int
  predicted : K
  actual : K
  absErr : K
  relErr : K
  fastSlope : K
  slowSlope : K
  mode : String

/-- A bounded history with running sums. -/
structure PredHistory (K : Type) where
  samples : List (PredSample K)
  max : Nat
  sumAbs : K
  sumRel : K
  n : Nat

structure Scheduler (K : Type) where
  workers : Dict String (Entry K)
  rrIndex : UInt64
  prefixCache : Dict UInt32 String
  lastDecision : Option (RoutingDecision K)
  decisionLog : List (RoutingDecision K)
  admission : AdmissionStats
  predHistory : PredHistory K

/-- `pb.InferenceRequest`, as far as it is routed on. -/
structure InferenceRequest where
  data : List UInt8
  tier : String

def AdmissionStats.zero : AdmissionStats := ⟨0, 0, 0, 0, 0, 0, 0, 0, 0⟩

section Init

variable [Field K]

/-- `NewPredHistory`. -/
def PredHistory.new (max : Int) : PredHistory K := ⟨[], if max ≤ 0 then 5000 else max.toNat, 0, 0, 0⟩

/-- `NewScheduler`. -/
def Scheduler.new : Scheduler K := ⟨[], 0, [], none, [], .zero, .new predHistoryCap⟩

end Init

/-! ## Cost -/

/-- `fnv.New32a`, after the bytes. -/
def fnv32a (data : List UInt8) : UInt32 := data.foldl (fun h c => (h ^^^ c.toUInt32) * 16777619) 2166136261

def prefixHash (data : List UInt8) : UInt32 := if data = [] then 0 else fnv32a (data.take 100)

/-- The tokens that a request is taken to have. -/
def InferenceRequest.tokens (req : InferenceRequest) : Int := Max.max 1 (req.data.length / 4)

section Cost

variable [Field K] [LinearOrder K]

/-- `computeWorkerScore`: the score and its breakdown, or nothing for a worker that is blocked. -/
def computeWorkerScore (abl : AblationFlags) (prefixCache : Dict UInt32 String) (req : InferenceRequest) (id : String)
    (w : Worker) (estimate : K × K) (tier : String) (totalVram : Int) : Option (K × RoutingDecision K) :=
  let tokens := req.tokens
  let execTime := estimate.1
  if execTime ≥ 10 ^ 300 then none
  else if !abl.disableVramHard ∧ w.lastKnownVram > 0 ∧ w.lastKnownVram < vramHardLimitMb ∧ tokens > 1000 then none
  else if !abl.disableTier ∧ req.tier = "large" ∧ tier ≠ "large" then none
  else
    let avgTaskTime := if estimate.2 = 0 then execTime else estimate.2
    let waitTime := if abl.disableQueue then 0 else (w.pendingTasks : K) / batchSize * avgTaskTime
    let tierPenalty := if !abl.disableTier ∧ req.tier = "small" ∧ tier = "large" then tierMismatchMs else 0
    let vramPenalty :=
      if !abl.disableVramSoft ∧ totalVram > 0 ∧ w.lastKnownVram < vramSoftLimitMb then
        (1 - (w.lastKnownVram : K) / (totalVram : K)) * 1000
      else 0
    let cacheBonus := if !abl.disableCache ∧ prefixCache.get? (prefixHash req.data) = some id then cacheBonusMs else 0
    let score := waitTime + execTime + tierPenalty + vramPenalty - cacheBonus
    some (score, ⟨id, execTime, waitTime, tierPenalty, vramPenalty, cacheBonus, score, tokens⟩)

/-- What a worker of the loop in `pickPredictive` would cost, when it is healthy and not blocked. -/
def Scheduler.rate (env : Env K) (s : Scheduler K) (req : InferenceRequest) (useRls : Bool) (id : String) :
    Option (K × RoutingDecision K) :=
  (s.workers.get? id).bind fun e =>
    if e.worker.isHealthy then
      if useRls then
        computeWorkerScore env.ablation s.prefixCache req id e.worker (e.rls.estimate req.tokens e.worker.lastKnownVram)
          e.rls.tier e.rls.totalVram
      else
        computeWorkerScore env.ablation s.prefixCache req id e.worker (e.nlms.estimate req.tokens e.worker.lastKnownVram)
          e.nlms.tier e.nlms.totalVram
    else none

/-- Where the loop of `pickPredictive` stands. -/
structure Choice (K : Type) where
  bestId : String
  minScore : K
  bestBreakdown : Option (RoutingDecision K)
  anyCandidate : Bool

def Choice.start : Choice K := ⟨"", maxFloat64, none, false⟩

/-- One turn of the loop. -/
def Choice.consider (c : Choice K) (id : String) : Option (K × RoutingDecision K) → Choice K
  | none => c
  | some (score, breakdown) =>
    if score < c.minScore then ⟨id, score, some breakdown, true⟩ else { c with anyCandidate := true }

/-- `pickPredictive`. -/
def Scheduler.pickPredictive (env : Env K) (s : Scheduler K) (req : InferenceRequest) (useRls : Bool)
    (order : List String) : Choice K :=
  order.foldl (fun c id => c.consider id (s.rate env req useRls id)) .start

end Cost

/-! ## Picking -/

/-- What `PickBestWorker` fails with. -/
inductive PickError
  | admission (retryAfterSec : Int) (message : String)
  | other (message : String)

/-- `newAdmissionError`. -/
def newAdmissionError [Field K] [LinearOrder K] [FloorRing K] (retryAfterMs : K) (reason : String) : PickError :=
  .admission (max 1 ⌊retryAfterMs / 1000⌋) ("admission rejected: " ++ reason)

def noHealthyWorkers : PickError := .other "no healthy workers available"

namespace Scheduler

/-- `healthyWorkerIDs`. -/
def healthyWorkerIds (s : Scheduler K) (order : List String) : List String :=
  order.filter fun id => (s.workers.get? id).any (·.worker.isHealthy)

section Choose

variable [Field K] [LinearOrder K] (env : Env K) (s : Scheduler K)

/-- The least loaded worker; the pending tasks are compared with `math.MaxInt` at first. -/
def leastLoaded (order : List String) : String :=
  (order.foldl (fun (best : String × Nat) id => (s.workers.get? id).elim best fun e =>
    if e.worker.isHealthy ∧ e.worker.pendingTasks < best.2 then (id, e.worker.pendingTasks) else best)
    ("", 2 ^ 63 - 1)).1

/-- The worker with the least average latency. -/
def latencyBased (order : List String) : String :=
  (order.foldl (fun (best : String × K) id => (s.workers.get? id).elim best fun e =>
    let lat := if e.nlms.averageLatency = 0 then 1 / 10 else e.nlms.averageLatency
    if e.worker.isHealthy ∧ lat < best.2 then (id, lat) else best) ("", maxFloat64)).1

def sessionWorker (req : InferenceRequest) (order : List String) : String :=
  let workers := s.healthyWorkerIds order
  workers.getD ((fnv32a req.data).toNat % workers.length) ""

/-- `recordDecision`. -/
def recordDecision (breakdown : RoutingDecision K) : Scheduler K :=
  let log := s.decisionLog ++ [breakdown]
  { s with lastDecision := some breakdown, decisionLog := log.drop (log.length - 200) }

/-- The decision of a choice, when there is one. -/
def recordChoice (c : Choice K) : Scheduler K :=
  if c.bestId = "" then s
  else
    match c.bestBreakdown with
    | some breakdown => s.recordDecision breakdown
    | none => s

def onAdmission (f : AdmissionStats → AdmissionStats) : Scheduler K := { s with admission := f s.admission }

def onWorker (id : String) (f : Worker → Worker) : Scheduler K :=
  { s with workers := s.workers.modify id fun e => { e with worker := f e.worker } }

/-- The request is booked on its worker. -/
def admitOn (id : String) (req : InferenceRequest) : Scheduler K :=
  ({ s with prefixCache := s.prefixCache.set (prefixHash req.data) id }.onWorker id fun w =>
    { w with pendingTasks := w.pendingTasks + 1 }).onAdmission fun a => { a with admitted := a.admitted + 1 }

/-- The worker that the strategy prefers, what it would cost, and whether there was a candidate; the round robin
fails at once without a worker. -/
def choose (order : List String) (req : InferenceRequest) : Option (Choice K × Scheduler K) :=
  match env.strategy with
  | .roundRobin =>
    let workers := s.healthyWorkerIds order
    if workers = [] then none
    else
      let idx := s.rrIndex + 1
      some (⟨workers.getD (idx.toNat % workers.length) "", maxFloat64, none, false⟩, { s with rrIndex := idx })
  | .leastLoaded => some (⟨s.leastLoaded order, maxFloat64, none, false⟩, s)
  | .latencyBased => some (⟨s.latencyBased order, maxFloat64, none, false⟩, s)
  | .session => some (⟨s.sessionWorker req order, maxFloat64, none, false⟩, s)
  | .rls =>
    let c := s.pickPredictive env req true order
    some (c, s.recordChoice c)
  | .static | .nlms | .other _ =>
    let c := s.pickPredictive env req false order
    some (c, s.recordChoice c)

variable [FloorRing K]

/-- The admission rule. -/
def settle (c : Choice K) (req : InferenceRequest) : Except PickError String × Scheduler K :=
  if c.bestId = "" then
    if !env.admissionDisabled ∧ c.anyCandidate ∧ (c.minScore ≥ 10 ^ 300 ∨ c.minScore > env.effectiveSloMs) then
      if c.minScore ≥ 10 ^ 300 then
        (.error (newAdmissionError (5000 : K) "all workers exceed SLO or VRAM capacity"),
          s.onAdmission fun a => { a with rejectedVram := a.rejectedVram + 1 })
      else
        (.error (newAdmissionError c.minScore "all workers exceed SLO or VRAM capacity"),
          s.onAdmission fun a => { a with rejectedSlo := a.rejectedSlo + 1 })
    else (.error noHealthyWorkers, s.onAdmission fun a => { a with rejectedNoWorker := a.rejectedNoWorker + 1 })
  else if !env.admissionDisabled ∧ env.strategy.admits ∧ c.minScore > env.effectiveSloMs then
    (.error (newAdmissionError c.minScore "predicted latency exceeds SLO"),
      s.onAdmission fun a => { a with rejectedSlo := a.rejectedSlo + 1 })
  else if (s.workers.get? c.bestId).isSome then (.ok c.bestId, s.admitOn c.bestId req)
  else (.ok c.bestId, s)

/-- `PickBestWorker`. -/
def pickBestWorker (order : List String) (req : InferenceRequest) : Except PickError String × Scheduler K :=
  match s.choose env order req with
  | none => (.error noHealthyWorkers, s)
  | some (c, s') => s'.settle env c req

end Choose

/-! ## Registration and feedback -/

/-- The predictor of a newly registered worker. -/
def newPredictor [Field K] (env : Env K) (tier : String) (vramMb : Int) : PerWorkerPredictor K :=
  let frozen := env.strategy = .static
  let slope := if frozen then env.staticSlope.prior staticDefaultSlope initialSlope else initialSlope
  { fastSlope := slope
    slowSlope := slope
    intercept := if frozen then env.staticIntercept.prior staticDefaultIntercept initialIntercept else initialIntercept
    averageLatency := 0
    interferenceHist := fun _ => 0
    histIdx := 0
    sumSquaredError := 0
    sumAbsErr := 0
    sumRelErr := 0
    updateCount := 0
    useDualSlope := !env.nlmsSingle && !env.ablation.singleTimescale && !frozen
    frozen := frozen
    bandwidthPenalty := 3 / 2
    tier := tier
    totalVram := vramMb }

/-- `RegisterWorkerWithEngine`: a worker that is registered again starts afresh. -/
def registerWorker [Field K] [LinearOrder K] (env : Env K) (s : Scheduler K) (id address tier : String) (vramMb : Int) :
    Scheduler K :=
  let vramMb := if vramMb ≤ 0 then 24576 else vramMb
  { s with workers := s.workers.set id ⟨⟨address, true, vramMb, 0⟩, newPredictor env tier vramMb, .new tier vramMb⟩ }

end Scheduler

/-- `PredHistory.Add`: the oldest sample makes room, and leaves the sums. -/
def PredHistory.add [Field K] (h : PredHistory K) (x : PredSample K) : PredHistory K :=
  match h.samples with
  | old :: rest =>
    if h.samples.length ≥ h.max then
      ⟨rest ++ [x], h.max, h.sumAbs - old.absErr + x.absErr, h.sumRel - old.relErr + x.relErr, h.n - 1 + 1⟩
    else ⟨h.samples ++ [x], h.max, h.sumAbs + x.absErr, h.sumRel + x.relErr, h.n + 1⟩
  | [] => ⟨[x], h.max, h.sumAbs + x.absErr, h.sumRel + x.relErr, h.n + 1⟩

section Feedback

variable [Field K] [LinearOrder K] [FloorRing K]

/-- `RecordCompletion`: the sums are of whole milliseconds. -/
def AdmissionStats.recordCompletion (a : AdmissionStats) (sloMs e2eMs predictedMs : K) : AdmissionStats :=
  { a with
    completedTotal := a.completedTotal + 1
    sumE2eMs := if e2eMs > 0 then a.sumE2eMs + ⌊e2eMs⌋₊ else a.sumE2eMs
    sumPredictedMs := if predictedMs > 0 then a.sumPredictedMs + ⌊predictedMs⌋₊ else a.sumPredictedMs
    completedUnderSlo := if e2eMs > 0 ∧ e2eMs ≤ sloMs then a.completedUnderSlo + 1 else a.completedUnderSlo
    completedOverSlo := if e2eMs > 0 ∧ ¬ e2eMs ≤ sloMs then a.completedOverSlo + 1 else a.completedOverSlo }

/-- One of the worker's requests is over. -/
def Worker.finish (w : Worker) : Worker := { w with pendingTasks := w.pendingTasks - 1 }

/-- Both predictors learn from a request. -/
def Entry.learn (e : Entry K) (e2eMs : K) (tokens : Int) : Entry K :=
  { e with nlms := e.nlms.update e2eMs tokens e.worker.lastKnownVram, rls := e.rls.update e2eMs tokens }

/-- The parameters go back to the learner's priors, a static profile's too. -/
def Entry.reset (e : Entry K) : Entry K :=
  { e with
    nlms := { e.nlms with fastSlope := initialSlope, slowSlope := initialSlope, intercept := initialIntercept }
    rls := { e.rls with
      slope := initialSlope, intercept := initialIntercept, p00 := 1000, p01 := 0, p10 := 0, p11 := 1000 } }

namespace Scheduler

/-- The sample of a request that a predictor has learned from. -/
def predSample (id : String) (e : Entry K) (e2eMs : K) (tokens : Int) : PredSample K :=
  let predicted := e.nlms.base tokens
  let absErr := |e2eMs - predicted|
  let learned := (e.learn e2eMs tokens).nlms
  ⟨id, tokens, predicted, e2eMs, absErr, absErr / max e2eMs 1, learned.fastSlope, learned.slowSlope, learned.modeName⟩

/-- What `FeedbackLoop` does with a latency: the predictors learn, and the request is counted. -/
def complete (env : Env K) (s : Scheduler K) (id : String) (e2eMs : K) (tokens : Int) : Scheduler K :=
  match s.workers.get? id with
  | some e =>
    let predicted := e.nlms.base tokens
    { s with
      workers := s.workers.modify id (·.learn e2eMs tokens)
      predHistory :=
        if predicted > 0 ∧ predicted < 10 ^ 300 then s.predHistory.add (predSample id e e2eMs tokens) else s.predHistory
      admission := s.admission.recordCompletion env.effectiveSloMs e2eMs predicted }
  -- nothing was predicted for a worker that is not registered
  | none => s.onAdmission (·.recordCompletion env.effectiveSloMs e2eMs 0)

/-- `FeedbackLoop`: a latency that is not positive marks a failure. -/
def feedbackLoop (env : Env K) (s : Scheduler K) (id : String) (e2eMs : K) (tokens : Int) : Scheduler K :=
  (if e2eMs > 0 then s.complete env id e2eMs tokens else s).onWorker id .finish

/-- `CancelRequest`. -/
def cancelRequest (s : Scheduler K) (id : String) : Scheduler K := s.onWorker id .finish

/-- `SetWorkerVRAM`. -/
def setWorkerVram (s : Scheduler K) (id : String) (freeMb : Int) : Scheduler K :=
  s.onWorker id fun w => { w with lastKnownVram := freeMb }

/-- `ResetWorkerState`. -/
def resetWorkerState (s : Scheduler K) (id : String) : Scheduler K := { s with workers := s.workers.modify id .reset }

/-- `ResetAdmissionStats`. -/
def resetAdmissionStats (s : Scheduler K) : Scheduler K :=
  { s with admission := .zero, predHistory := .new predHistoryCap }

/-- `GetGlobalQueueDepth`. -/
def globalQueueDepth (s : Scheduler K) : Nat := (s.workers.map fun p => p.2.worker.pendingTasks).sum

end Scheduler

end Feedback

end Dio.Manager
