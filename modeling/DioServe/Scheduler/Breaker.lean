/-
The breaker (`scheduler.py`, `note_failure`): how many failures it takes to put a worker out of
rotation. The streak outlives the worker's registration, so a worker registered under an id with a
streak starts with it; in a run where none is, the streak counts the failures since registration.
-/
import DioServe.Scheduler.Traffic

namespace Dio.Scheduler

open Data Effect

variable {K : Type}

/-! ## Failures since the breaker was last clean -/

/-- The scheduler, and for each worker the failures noted since it was registered or cleared. -/
structure Watched (K : Type) where
  sched : State K
  failures : String → Nat

/-- The count of a worker after a move: a failure adds one; registration, a successful request, a noted success, a
recovery and a reset of the statistics clear it. -/
def Move.countFailure (w : String) (n : Nat) : Move K → Nat
  | .noteFailure w' _ => if w' = w then n + 1 else n
  | .register r => if r.id = w then 0 else n
  | .feedback t _ _ success => if t.worker = w ∧ success = true then 0 else n
  | .noteSuccess w' => if w' = w then 0 else n
  | .setHealthy w' healthy => if w' = w ∧ healthy = true then 0 else n
  | .resetStats => 0
  | .unregister _ | .pick _ | .release _ | .setVram _ _ | .setEngineMetrics _ _ => n

/-- The streak of failures the breaker has for a worker. -/
def streak (s : State K) (w : String) : Nat := (Dict.get? s.failStreak w).getD 0

/-- A noted failure takes a worker out of rotation only from its `threshold`-th failure on. -/
def Patient (l : Watched K) (m : Move K) : Prop :=
  ∀ w threshold, m = .noteFailure w threshold → w ∈ l.sched.healthyIds →
    w ∉ (noteFailure l.sched w threshold).2.healthyIds → threshold ≤ l.failures w + 1

/-- A worker is registered under an id without a streak. -/
def CleanStart (l : Watched K) (m : Move K) : Prop := ∀ r, m = .register r → streak l.sched r.id = 0

/-- The streak of a registered worker counts its failures. -/
def Counting (l : Watched K) : Prop := ∀ w ∈ Dict.keys l.sched.predictors, streak l.sched w = l.failures w

theorem streak_eq_of {s : State K} {d : Dict String Nat} {w v : String} {n : Nat} (h : s.failStreak = Dict.set d w n) :
    streak s v = if w = v then n else (Dict.get? d v).getD 0 := by
  unfold streak
  rw [h, Dict.get?_set]
  split <;> rfl

theorem noteFailure_failStreak (s : State K) (w : String) (threshold : Nat) :
    (noteFailure s w threshold).2.failStreak = Dict.set s.failStreak w (streak s w + 1) := by
  unfold noteFailure
  dsimp only
  split <;> rfl

/-- Below the threshold a noted failure changes nobody's health. -/
theorem noteFailure_healthyIds {s : State K} {w : String} {threshold : Nat} (h : streak s w + 1 < threshold) :
    (noteFailure s w threshold).2.healthyIds = s.healthyIds := by
  have hlt : ¬ (Dict.get? s.failStreak w).getD 0 + 1 ≥ threshold := Nat.not_le.2 h
  unfold noteFailure
  dsimp only
  rw [if_neg hlt]
  rfl

theorem setHealthy_failStreak (s : State K) (w : String) (healthy : Bool) : (setHealthy s w healthy).failStreak =
    if Dict.contains s.predictors w && healthy then Dict.set s.failStreak w 0 else s.failStreak := by
  unfold setHealthy
  dsimp only
  split <;> rfl

/-- Where the streak counts, the breaker is patient. -/
theorem Counting.patient {l : Watched K} (h : Counting l) (m : Move K) : Patient l m := by
  rintro w threshold rfl hin hout
  by_contra hlt
  apply hout
  have hcount := h w (mem_keys_of_healthy hin)
  rw [noteFailure_healthyIds (by omega)]
  exact hin

section Runs

variable [Field K] [LinearOrder K] [FloorRing K] (cfg : Cfg K)

def Move.watch (m : Move K) (l : Watched K) : Watched K :=
  ⟨m.onSched cfg l.sched, fun w => m.countFailure w (l.failures w)⟩

/-- A new scheduler. -/
def Watched.init : Watched K := ⟨.init, fun _ => 0⟩

variable {cfg}

omit [FloorRing K] in
theorem setEngineMetrics_failStreak (s : State K) (w : String) (snap : EngineSnapshot K) :
    (setEngineMetrics s w snap).failStreak = s.failStreak := by
  unfold setEngineMetrics
  dsimp only
  split <;> rfl

theorem pick_failStreak (s : State K) (a : PickArgs) : (pick cfg s a).2.failStreak = s.failStreak := by
  have h := pick_cases cfg s a
  generalize pick cfg s a = r at h
  cases h <;> rfl

/-- The streak goes on counting as long as nobody is registered under an id with one. -/
theorem Counting.watch {l : Watched K} (h : Counting l) {m : Move K} (hok : CleanStart l m) : Counting (m.watch cfg l) := by
  intro w hw
  cases m with
  | register r =>
    show streak l.sched w = if r.id = w then 0 else l.failures w
    split
    · rename_i hid
      rw [← hid]
      exact hok r rfl
    · rename_i hid
      exact h w ((Dict.mem_keys_set.1 hw).resolve_left fun he => hid he.symm)
  | unregister v => exact h w ((List.filter_sublist.map Prod.fst).subset hw)
  | pick a =>
    have hkeys : Dict.keys (pick cfg l.sched a).2.predictors = Dict.keys l.sched.predictors := (frame_pick cfg l.sched a).keys
    show (Dict.get? (pick cfg l.sched a).2.failStreak w).getD 0 = l.failures w
    rw [pick_failStreak]
    exact h w (hkeys ▸ hw)
  | feedback t e2eMs tokens success =>
    have hkeys := feedback_keys cfg l.sched t.worker e2eMs tokens success
    have hcount := h w (hkeys ▸ hw)
    cases success with
    | false =>
      show streak l.sched w = if t.worker = w ∧ false = true then 0 else l.failures w
      simpa using hcount
    | true =>
      have hset : (feedback cfg l.sched t.worker e2eMs tokens true).failStreak = Dict.set l.sched.failStreak t.worker 0 := rfl
      show streak (feedback cfg l.sched t.worker e2eMs tokens true) w = if t.worker = w ∧ true = true then 0 else l.failures w
      rw [streak_eq_of hset, ← hcount]
      simp only [and_true]
      rfl
  | release t =>
    have hkeys : Dict.keys (release l.sched t.worker).predictors = Dict.keys l.sched.predictors := State.onNlms_keys _ _ _
    exact h w (hkeys ▸ hw)
  | setHealthy v healthy =>
    have hkeys := (frame_setHealthy l.sched v healthy).keys
    have hcount := h w (hkeys ▸ hw)
    show (Dict.get? (setHealthy l.sched v healthy).failStreak w).getD 0 = if v = w ∧ healthy = true then 0 else l.failures w
    rw [setHealthy_failStreak, ← hcount]
    by_cases hv : v = w
    · -- the worker is registered, so its recovery is seen
      have hreg : Dict.contains l.sched.predictors v = true := Dict.get?_isSome_iff.2 (hv ▸ hkeys ▸ hw)
      rw [hreg]
      cases healthy <;> simp [hv, streak]
    · split
      · rw [Dict.get?_set, if_neg hv]
        simp [hv, streak]
      · simp [hv, streak]
  | setVram v free =>
    have hkeys : Dict.keys (setVram l.sched v free).predictors = Dict.keys l.sched.predictors := State.onNlms_keys _ _ _
    exact h w (hkeys ▸ hw)
  | setEngineMetrics v snap =>
    have hkeys := (frame_setEngineMetrics l.sched v snap).keys
    show (Dict.get? (setEngineMetrics l.sched v snap).failStreak w).getD 0 = l.failures w
    rw [setEngineMetrics_failStreak]
    exact h w (hkeys ▸ hw)
  | noteFailure v threshold =>
    have hkeys := (frame_noteFailure l.sched v threshold).keys
    have hcount := h w (hkeys ▸ hw)
    show streak (noteFailure l.sched v threshold).2 w = if v = w then l.failures w + 1 else l.failures w
    rw [streak_eq_of (noteFailure_failStreak l.sched v threshold), ← hcount]
    split
    · rename_i hv
      rw [hv]
    · rfl
  | noteSuccess v =>
    have hset : (noteSuccess l.sched v).failStreak = Dict.set l.sched.failStreak v 0 := rfl
    show streak (noteSuccess l.sched v) w = if v = w then 0 else l.failures w
    rw [streak_eq_of hset, ← h w hw]
    rfl
  | resetStats => rfl

/-- In every run that registers nobody under an id with a streak, a noted failure takes a worker out of rotation only
from its `threshold`-th failure on since it was registered or cleared. -/
theorem breaker_patient (ms : List (Move K)) (hok : Trace.Allowed (Move.watch cfg) CleanStart .init ms) :
    Trace.Allowed (Move.watch cfg) Patient .init ms := by
  have hall : Trace.Always (Move.watch cfg) Counting .init ms := by
    apply Trace.always_of_invariant (fun l m h hm => h.watch hm) _ hok
    rintro w ⟨⟩
  exact hall.allowed (fun l m h _ => h.patient m) hok

/-- A worker with a threshold of three fails twice and is replaced under its id. -/
def replaced : List (Move ℚ) :=
  [.register oneWorker, .noteFailure "gpu0" 3, .noteFailure "gpu0" 3, .unregister "gpu0", .register oneWorker]

theorem breaker_patient_thrice :
    Trace.Allowed (Move.watch defaultCfg) Patient .init
      [.register oneWorker, .noteFailure "gpu0" 3, .noteFailure "gpu0" 3, .noteFailure "gpu0" 3] := by
  apply breaker_patient
  refine ⟨?_, ?_, ?_, ?_, trivial⟩
  · rintro r ⟨⟩
    rfl
  · rintro r ⟨⟩
  · rintro r ⟨⟩
  · rintro r ⟨⟩

/-- The first failure of the new engine takes it out of rotation. -/
theorem replaced_evicted_at_once :
    ¬ Trace.Allowed (Move.watch defaultCfg) Patient .init (replaced ++ [.noteFailure "gpu0" 3]) := by
  rw [Trace.allowed_append]
  rintro ⟨-, h, -⟩
  have hle := h "gpu0" 3 rfl (by decide +kernel) (by decide +kernel)
  revert hle
  decide +kernel

end Runs

end Dio.Scheduler
