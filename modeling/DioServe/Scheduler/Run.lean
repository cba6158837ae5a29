/-
Runs of the scheduler: the operations its callers make, the requests in flight, and what each
operation leaves unchanged. A request is closed at most once, on the worker that admitted it, and a
latency is a difference of two readings of a monotonic clock.
-/
import DioServe.Scheduler.Pick
import Mathlib.Logic.Relation

namespace Dio.Scheduler

open Data

variable {K : Type}

/-! ## What operations leave alone -/

/-- The counters of finished requests: under the SLO, successful, failed. -/
def AdmissionStats.outcomes (a : AdmissionStats K) : Nat × Nat × Nat :=
  (a.completedUnderSlo, a.completedTotal, a.failedTotal)

/-- What operations other than completions leave alone: the registered workers, the observed
latencies and the counters of finished requests. -/
structure Frame (s s' : State K) : Prop where
  keys : Dict.keys s'.predictors = Dict.keys s.predictors
  recentE2e : s'.recentE2e = s.recentE2e
  outcomes : s'.admission.outcomes = s.admission.outcomes

theorem Frame.trans {s₁ s₂ s₃ : State K} (h : Frame s₁ s₂) (h' : Frame s₂ s₃) : Frame s₁ s₃ :=
  ⟨h'.keys.trans h.keys, h'.recentE2e.trans h.recentE2e, h'.outcomes.trans h.outcomes⟩

theorem frame_onNlms (s : State K) (w : String) (f : DualTimescaleNlms K → DualTimescaleNlms K) :
    Frame s (s.onNlms w f) := ⟨State.onNlms_keys s w f, rfl, rfl⟩

/-- A report about a worker leaves alone who is registered, and all that is not about workers. -/
structure Reports (s s' : State K) : Prop where
  keys : Dict.keys s'.predictors = Dict.keys s.predictors
  rest : s' = { s with predictors := s'.predictors, engineSnap := s'.engineSnap, failStreak := s'.failStreak }

theorem Reports.frame {s s' : State K} (h : Reports s s') : Frame s s' :=
  ⟨h.keys, by rw [h.rest], by rw [h.rest]⟩

/-- A change of health changes one worker's learner. -/
theorem predictors_setHealthy (s : State K) (w : String) (healthy : Bool) :
    (setHealthy s w healthy).predictors = (s.onNlms w fun m => { m with healthy := healthy }).predictors := by
  unfold setHealthy
  dsimp only
  split <;> rfl

/-- A noted failure makes its worker unhealthy, or changes none. -/
theorem predictors_noteFailure (s : State K) (w : String) (n : Nat) :
    (noteFailure s w n).2.predictors = (s.onNlms w fun m => { m with healthy := false }).predictors ∨
      (noteFailure s w n).2.predictors = s.predictors := by
  unfold noteFailure
  dsimp only
  split
  · exact .inl rfl
  · exact .inr rfl

theorem reports_noteFailure (s : State K) (w : String) (n : Nat) : Reports s (noteFailure s w n).2 := by
  unfold noteFailure
  dsimp only
  split
  · exact ⟨by simp, rfl⟩
  · exact ⟨rfl, rfl⟩

theorem reports_setHealthy (s : State K) (w : String) (h : Bool) : Reports s (setHealthy s w h) := by
  unfold setHealthy
  dsimp only
  split
  · exact ⟨by simp, rfl⟩
  · exact ⟨State.onNlms_keys s w _, rfl⟩

theorem frame_noteFailure (s : State K) (w : String) (n : Nat) : Frame s (noteFailure s w n).2 :=
  (reports_noteFailure s w n).frame

theorem frame_setHealthy (s : State K) (w : String) (h : Bool) : Frame s (setHealthy s w h) :=
  (reports_setHealthy s w h).frame

theorem frame_admitted (cfg : Cfg K) (s : State K) (d : RoutingDecision K) : Frame s (admitted cfg s d) :=
  ⟨by simp [admitted], rfl, rfl⟩

variable [Field K] [LinearOrder K]

/-- A scrape changes the free memory of its worker, or none. -/
theorem predictors_setEngineMetrics (s : State K) (w : String) (snap : EngineSnapshot K) :
    (∃ f, (∀ m : DualTimescaleNlms K, ∃ free, f m = { m with freeVramMb := free }) ∧
        (setEngineMetrics s w snap).predictors = (s.onNlms w f).predictors) ∨
      (setEngineMetrics s w snap).predictors = s.predictors := by
  unfold setEngineMetrics
  dsimp only
  split
  · refine .inl ⟨fun m => if m.totalVramMb > 0 ∧ snap.kvCacheUsage ≥ 0 then
      { m with freeVramMb := max 0 (m.totalVramMb * (1 - snap.kvCacheUsage)) } else m, ?_, rfl⟩
    intro m
    dsimp only
    split
    · exact ⟨_, rfl⟩
    · exact ⟨m.freeVramMb, rfl⟩
  · exact .inr rfl

theorem reports_setEngineMetrics (s : State K) (w : String) (snap : EngineSnapshot K) :
    Reports s (setEngineMetrics s w snap) := by
  unfold setEngineMetrics
  dsimp only
  split
  · exact ⟨by simp, rfl⟩
  · exact ⟨rfl, rfl⟩

theorem frame_setEngineMetrics (s : State K) (w : String) (snap : EngineSnapshot K) :
    Frame s (setEngineMetrics s w snap) := (reports_setEngineMetrics s w snap).frame

/-- A successful completion is observed; a failed one is not. -/
theorem feedback_recentE2e (cfg : Cfg K) (s : State K) (w : String) (e2eMs : K) (tokens : Int) (success : Bool) :
    (feedback cfg s w e2eMs tokens success).recentE2e =
      if success then Deque.push cfg.recentMax s.recentE2e e2eMs else s.recentE2e := by
  cases success <;> rfl

/-- What a closed request adds to the counters. -/
theorem feedback_outcomes (cfg : Cfg K) (s : State K) (w : String) (e2eMs : K) (tokens : Int) (success : Bool) :
    (feedback cfg s w e2eMs tokens success).admission.outcomes =
      (s.admission.completedUnderSlo + if success = true ∧ e2eMs ≤ cfg.sloMs then 1 else 0,
        s.admission.completedTotal + if success then 1 else 0, s.admission.failedTotal + if success then 0 else 1) := by
  cases success
  · rfl
  · by_cases h : e2eMs ≤ cfg.sloMs <;>
      simp [feedback, completed, AdmissionStats.complete, AdmissionStats.outcomes, h]

theorem feedback_keys (cfg : Cfg K) (s : State K) (w : String) (e2eMs : K) (tokens : Int) (success : Bool) :
    Dict.keys (feedback cfg s w e2eMs tokens success).predictors = Dict.keys s.predictors := by
  unfold feedback
  cases success <;> simp [completed, failed]

variable [FloorRing K]

/-! ## Operations -/

inductive Op (K : Type)
  | pick (a : PickArgs)
  | feedback (workerId : String) (e2eMs : K) (tokens : Int) (success : Bool)
  | release (workerId : String)
  | setHealthy (workerId : String) (healthy : Bool)
  | setVram (workerId : String) (freeMb : K)
  | setEngineMetrics (workerId : String) (snap : EngineSnapshot K)
  | noteFailure (workerId : String) (threshold : Nat)
  | resetStats

/-- The scheduler with the workers of the admitted requests not yet closed. -/
structure Sys (K : Type) where
  sched : State K
  inFlight : List String

/-- A request is closed only when in flight, with a latency that is not negative. -/
def Op.Enabled (s : Sys K) : Op K → Prop
  | .feedback w e2eMs _ _ => w ∈ s.inFlight ∧ 0 ≤ e2eMs
  | .release w => w ∈ s.inFlight
  | _ => True

/-- The requests in flight after a pick. -/
def pickedUp (inFlight : List String) (r : Except AdmissionError (String × RoutingDecision K)) : List String :=
  match r with
  | .ok (w, _) => w :: inFlight
  | .error _ => inFlight

def Op.exec (cfg : Cfg K) (s : Sys K) : Op K → Sys K
  | .pick a => ⟨(Scheduler.pick cfg s.sched a).2, pickedUp s.inFlight (Scheduler.pick cfg s.sched a).1⟩
  | .feedback w e2eMs tokens success => ⟨Scheduler.feedback cfg s.sched w e2eMs tokens success, s.inFlight.erase w⟩
  | .release w => ⟨Scheduler.release s.sched w, s.inFlight.erase w⟩
  | .setHealthy w h => ⟨Scheduler.setHealthy s.sched w h, s.inFlight⟩
  | .setVram w free => ⟨Scheduler.setVram s.sched w free, s.inFlight⟩
  | .setEngineMetrics w snap => ⟨Scheduler.setEngineMetrics s.sched w snap, s.inFlight⟩
  | .noteFailure w n => ⟨(Scheduler.noteFailure s.sched w n).2, s.inFlight⟩
  | .resetStats => ⟨Scheduler.resetStats s.sched, s.inFlight⟩

def Step (cfg : Cfg K) (s s' : Sys K) : Prop := ∃ op : Op K, op.Enabled s ∧ s' = op.exec cfg s

/-- `s'` can be reached from `s` by the scheduler's operations. -/
def Reach (cfg : Cfg K) : Sys K → Sys K → Prop := Relation.ReflTransGen (Step cfg)

/-- A property each enabled operation keeps holds in every state reached. -/
theorem Reach.invariant {cfg : Cfg K} {P : Sys K → Prop} {s s' : Sys K} (h0 : P s)
    (hstep : ∀ s (op : Op K), P s → op.Enabled s → P (op.exec cfg s)) (h : Reach cfg s s') : P s' := by
  induction h with
  | refl => exact h0
  | tail _ hs ih =>
    obtain ⟨op, hen, rfl⟩ := hs
    exact hstep _ op ih hen

theorem Reach.refl {cfg : Cfg K} (s : Sys K) : Reach cfg s s := Relation.ReflTransGen.refl

theorem Reach.trans {cfg : Cfg K} {s₁ s₂ s₃ : Sys K} (h : Reach cfg s₁ s₂) (h' : Reach cfg s₂ s₃) : Reach cfg s₁ s₃ :=
  Relation.ReflTransGen.trans h h'

theorem Reach.snoc {cfg : Cfg K} {s s' : Sys K} (h : Reach cfg s s') (op : Op K) (hen : op.Enabled s') :
    Reach cfg s (op.exec cfg s') := Relation.ReflTransGen.tail h ⟨op, hen, rfl⟩

/-! ## Running a list of operations -/

instance Op.decidableEnabled (s : Sys K) : (op : Op K) → Decidable (op.Enabled s)
  | .feedback w e2eMs _ _ => inferInstanceAs (Decidable (w ∈ s.inFlight ∧ 0 ≤ e2eMs))
  | .release w => inferInstanceAs (Decidable (w ∈ s.inFlight))
  | .pick _ | .setHealthy _ _ | .setVram _ _ | .setEngineMetrics _ _ | .noteFailure _ _ | .resetStats => .isTrue trivial

def runOps (cfg : Cfg K) (s : Sys K) : List (Op K) → Sys K
  | [] => s
  | op :: ops => runOps cfg (op.exec cfg s) ops

/-- Each operation is enabled when its turn comes. -/
def enabledOps (cfg : Cfg K) (s : Sys K) : List (Op K) → Bool
  | [] => true
  | op :: ops => decide (op.Enabled s) && enabledOps cfg (op.exec cfg s) ops

theorem reach_runOps {cfg : Cfg K} : ∀ (ops : List (Op K)) (s : Sys K), enabledOps cfg s ops = true →
    Reach cfg s (runOps cfg s ops)
  | [], s, _ => Reach.refl s
  | op :: ops, s, h => by
    rw [enabledOps, Bool.and_eq_true, decide_eq_true_eq] at h
    exact ((Reach.refl s).snoc op h.1).trans (reach_runOps ops _ h.2)

/-! ## A fleet -/

/-- The arguments of one `register`. -/
structure Registration (K : Type) where
  id : String
  tier : String := "small"
  totalVramMb : K
  freeVramMb : Option K := none

/-- A new scheduler with its workers registered. -/
def fleet (cfg : Cfg K) (regs : List (Registration K)) : Sys K :=
  ⟨regs.foldl (fun s r => register cfg s r.id r.tier r.totalVramMb r.freeVramMb) .init, []⟩

omit [LinearOrder K] [FloorRing K] in
theorem nodup_keys_fleet (cfg : Cfg K) (regs : List (Registration K)) :
    (Dict.keys (fleet cfg regs).sched.predictors).Nodup := by
  have h : ∀ (rs : List (Registration K)) (s : State K), (Dict.keys s.predictors).Nodup →
      (Dict.keys (rs.foldl (fun s r => register cfg s r.id r.tier r.totalVramMb r.freeVramMb) s).predictors).Nodup := by
    intro rs
    induction rs with
    | nil => exact fun _ h => h
    | cons r rs ih => exact fun s hs => ih _ (Dict.nodup_keys_set hs)
  exact h regs .init List.nodup_nil

omit [LinearOrder K] [FloorRing K] in
/-- A fleet of some registrations has a worker. -/
theorem fleet_ne_nil (cfg : Cfg K) {regs : List (Registration K)} (h : regs ≠ []) :
    Dict.keys (fleet cfg regs).sched.predictors ≠ [] := by
  have hfold : ∀ (rs : List (Registration K)) (s : State K), Dict.keys s.predictors ≠ [] →
      Dict.keys (rs.foldl (fun s r => register cfg s r.id r.tier r.totalVramMb r.freeVramMb) s).predictors ≠ [] := by
    intro rs
    induction rs with
    | nil => exact fun _ h => h
    | cons r rs ih => exact fun s _ => ih _ (List.ne_nil_of_mem (Dict.mem_keys_set.2 (.inl rfl)))
  cases regs with
  | nil => exact absurd rfl h
  | cons r rs => exact hfold rs _ (List.ne_nil_of_mem (Dict.mem_keys_set.2 (.inl rfl)))

/-- The default configuration, without affinity. -/
def defaultCfg : Cfg ℚ := .default fun _ => 0

def oneWorker : Registration ℚ := { id := "gpu0", totalVramMb := 24000 }

/-! ## Frames -/

section Frame

variable (cfg : Cfg K)

theorem frame_rejectNoWorker (s : State K) (m : String) : Frame s (rejectNoWorker cfg s m).2 := ⟨rfl, rfl, rfl⟩

theorem frame_pickEwma (s : State K) (ids : List String) (tokens : Int) : Frame s (pickEwma cfg s ids tokens).2 := by
  unfold pickEwma
  split
  · exact ⟨(frame_admitted cfg s _).keys, rfl, rfl⟩
  · split
    · exact ⟨(frame_admitted cfg s _).keys, rfl, rfl⟩
    · exact frame_rejectNoWorker cfg s _

theorem frame_admitOrShed (s : State K) (pkey : Nat) (best : RoutingDecision K) (scores : List K) :
    Frame s (admitOrShed cfg s pkey best scores).2 := by
  unfold admitOrShed
  dsimp only
  split
  · exact ⟨rfl, rfl, rfl⟩
  · exact ⟨by simp [admittedByCost, admitted, remember], rfl, rfl⟩

theorem frame_pickCost (s : State K) (ids : List String) (prompt : String) (tokens : Int) (tier : String) :
    Frame s (pickCost cfg s ids prompt tokens tier).2 := by
  unfold pickCost
  dsimp only
  split
  · unfold rejectInfeasible
    split
    · exact ⟨rfl, rfl, rfl⟩
    · exact frame_rejectNoWorker cfg s _
  · exact frame_admitOrShed cfg s _ _ _

/-- A pick registers nobody and observes nothing. -/
theorem frame_pick (s : State K) (a : PickArgs) : Frame s (pick cfg s a).2 := by
  unfold pick
  simp only
  split
  · exact frame_rejectNoWorker cfg s _
  · split
    · exact ⟨by simp [pickRoundRobin, admitted], rfl, rfl⟩
    · exact frame_admitted cfg s _
    · exact frame_pickEwma cfg s _ _
    all_goals exact frame_pickCost cfg s _ _ _ _

/-- What a pick does to the workers: the picked one takes a slot, a rejection changes none. -/
def PickEffect (s : State K) (r : Picked K) : Prop :=
  match r.1 with
  | .ok (w, _) => r.2.predictors = (s.onNlms w .markAdmitted).predictors
  | .error _ => r.2.predictors = s.predictors

theorem pickEffect_pickEwma (s : State K) (ids : List String) (tokens : Int) :
    PickEffect s (pickEwma cfg s ids tokens) := by
  unfold pickEwma
  split
  · exact rfl
  · split <;> exact rfl

theorem pickEffect_pickCost (s : State K) (ids : List String) (prompt : String) (tokens : Int) (tier : String) :
    PickEffect s (pickCost cfg s ids prompt tokens tier) := by
  unfold pickCost
  dsimp only
  split
  · unfold rejectInfeasible
    split <;> exact rfl
  · unfold admitOrShed
    dsimp only
    split <;> exact rfl

theorem pick_effect (s : State K) (a : PickArgs) : PickEffect s (pick cfg s a) := by
  unfold pick
  dsimp only
  split
  · exact rfl
  · split
    · exact rfl
    · exact rfl
    · exact pickEffect_pickEwma cfg s _ _
    all_goals exact pickEffect_pickCost cfg s _ _ _ _

/-- No operation changes the set of workers. -/
theorem exec_keys (s : Sys K) (op : Op K) : Dict.keys (op.exec cfg s).sched.predictors = Dict.keys s.sched.predictors := by
  cases op with
  | pick a => exact (frame_pick cfg s.sched a).keys
  | feedback w e t ok => exact feedback_keys cfg s.sched w e t ok
  | release w => exact State.onNlms_keys s.sched w _
  | setHealthy w h => exact (frame_setHealthy s.sched w h).keys
  | setVram w f => exact State.onNlms_keys s.sched w _
  | setEngineMetrics w m => exact (frame_setEngineMetrics s.sched w m).keys
  | noteFailure w n => exact (frame_noteFailure s.sched w n).keys
  | resetStats => rfl

theorem Reach.keys {cfg : Cfg K} {s s' : Sys K} (h : Reach cfg s s') :
    Dict.keys s'.sched.predictors = Dict.keys s.sched.predictors :=
  h.invariant (P := fun s' => Dict.keys s'.sched.predictors = Dict.keys s.sched.predictors) rfl
    fun s' op ih _ => (exec_keys cfg s' op).trans ih

end Frame

end Dio.Scheduler
