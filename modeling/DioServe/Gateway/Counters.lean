/-
The counters of a whole run: `failed_total` is the number of failed requests counted by all of them,
and `goodput_fraction` is 1 only when none was.
-/
import DioServe.Gateway.Goodput
import DioServe.Scheduler.Run
import Mathlib.Algebra.Order.Field.Basic

namespace Dio.Gateway

open Data Py Effect Scheduler

variable {K : Type}

/-! ## What changes the counters -/

/-- The completed requests under the SLO are among the completed ones. -/
def Counted (s : State K) : Prop := s.admission.completedUnderSlo ≤ s.admission.completedTotal

theorem Counted.of_outcomes {s s' : State K} (h : s'.admission.outcomes = s.admission.outcomes) (hs : Counted s) :
    Counted s' := by
  simp only [AdmissionStats.outcomes, Prod.mk.injEq] at h
  unfold Counted at hs ⊢
  omega

section Scheduler

variable [Field K] [LinearOrder K]

theorem Counted.feedback {cfg : Cfg K} {s : State K} (hs : Counted s) (w : String) (e2eMs : K) (tokens : Int)
    (success : Bool) : Counted (Scheduler.feedback cfg s w e2eMs tokens success) := by
  have h := feedback_outcomes cfg s w e2eMs tokens success
  simp only [AdmissionStats.outcomes, Prod.mk.injEq] at h
  unfold Counted at hs ⊢
  cases success with
  | true => simp only [true_and, if_true] at h; split at h <;> omega
  | false => simp only [Bool.false_eq_true, false_and, if_false] at h; omega

/-- The tasks behind the gateway finish no request. -/
theorem outcomes_of_background {cfg : Cfg K} {s s' : State K} (h : Background cfg s s') :
    s'.admission.outcomes = s.admission.outcomes := by
  cases h with
  | setHealthy w healthy => exact (frame_setHealthy s w healthy).outcomes
  | setVram w freeMb => exact (frame_onNlms s w _).outcomes
  | setEngineMetrics w snap => exact (frame_setEngineMetrics s w snap).outcomes
  | register w tier totalVramMb freeVramMb => rfl

variable [FloorRing K]

/-- Of the calls on the scheduler only `feedback` finishes a request. -/
theorem outcomes_of_sem {cfg : Cfg K} {o : Call K} {φ : State K → o.Res × State K} (h : schedulerSem cfg o = some φ)
    (s : State K) :
    (∃ w e2eMs tokens success, o = .feedback w e2eMs tokens success ∧
      (φ s).2 = Scheduler.feedback cfg s w e2eMs tokens success) ∨
      (∀ r, failing (⟨o, r⟩ : Event (sig K)) = 0) ∧ (φ s).2.admission.outcomes = s.admission.outcomes := by
  cases o with
  | pick a => cases h; exact .inr ⟨fun _ => rfl, (frame_pick cfg s a).outcomes⟩
  | feedback w e2eMs tokens success => cases h; exact .inl ⟨w, e2eMs, tokens, success, rfl, rfl⟩
  | release w => cases h; exact .inr ⟨fun _ => rfl, (frame_onNlms s w _).outcomes⟩
  | noteFailure w => cases h; exact .inr ⟨fun _ => rfl, (frame_noteFailure s w 3).outcomes⟩
  | _ => cases h

/-! ## Runs -/

theorem Counted.reach {G : DioGateway K} {cfg : Cfg K} {s : State K} (hs : Counted s) {c : Config (sig K) Exn (State K)}
    (h : (machine G cfg).Reach s c) : Counted c.state := by
  refine Machine.Reach.invariant (P := fun c => Counted c.state) hs ?_ h
  intro c c' hc hstep
  cases hstep with
  | start _ => exact hc
  | shared _ _ hsem =>
    rcases outcomes_of_sem hsem c.state with ⟨w, e2eMs, tokens, success, -, h⟩ | ⟨-, h⟩
    · show Counted _
      rw [h]; exact hc.feedback w e2eMs tokens success
    · exact hc.of_outcomes h
  | answer _ _ _ _ => exact hc
  | background hb => exact hc.of_outcomes (outcomes_of_background hb)

/-- `failed_total` counts the failures of all requests. -/
theorem failedTotal_reach {G : DioGateway K} {cfg : Cfg K} {s : State K} {c : Config (sig K) Exn (State K)}
    (h : (machine G cfg).Reach s c) :
    c.state.admission.failedTotal = s.admission.failedTotal + Machine.total failing c.tasks := by
  refine Machine.Reach.accounting (fun s => s.admission.failedTotal) failing ?_ ?_ ?_ h
  · intro o φ s hsem
    rcases outcomes_of_sem hsem s with ⟨w, e2eMs, tokens, success, rfl, h⟩ | ⟨hzero, h⟩
    · have hf := feedback_outcomes cfg s w e2eMs tokens success
      simp only [AdmissionStats.outcomes, Prod.mk.injEq] at hf
      rw [h, hf.2.2]
      cases success <;> rfl
    · simp only [AdmissionStats.outcomes, Prod.mk.injEq] at h
      rw [hzero, h.2.2]; rfl
  · intro o r hsem
    cases o <;> first | rfl | cases hsem
  · intro s s' hb
    have h := outcomes_of_background hb
    simp only [AdmissionStats.outcomes, Prod.mk.injEq] at h
    exact h.2.2

omit [FloorRing K] in
/-- A perfect score leaves no room for a counted failure. -/
theorem failedTotal_of_perfect [IsStrictOrderedRing K] {s : State K} (hs : Counted s)
    (h : s.admission.goodputFraction = 1) : s.admission.failedTotal = 0 := by
  unfold AdmissionStats.goodputFraction at h
  split at h
  · exact absurd h zero_ne_one
  · rename_i hne
    have hne' : ((s.admission.completedTotal + s.admission.failedTotal : Nat) : K) ≠ 0 := Nat.cast_ne_zero.2 hne
    rw [div_eq_one_iff_eq hne', Nat.cast_inj] at h
    unfold Counted at hs
    omega

/-- In every run counted from zero, a request that ends in an engine-side failure is counted exactly
once unless one of its calls was answered in a way that loses the failure; `failed_total` is what all
requests count; and a perfect goodput leaves only failures that were lost. -/
theorem engine_failures_counted [IsStrictOrderedRing K] (G : DioGateway K) (cfg : Cfg K) {s : State K}
    (hs : s.admission = .zero) {c : Config (sig K) Exn (State K)} (hrun : (machine G cfg).Reach s c) :
    (∀ t ∈ c.tasks, ∀ x, t.Ended x → EngineFailed t.hist →
        (Machine.weight failing t.hist = 1 ↔ ∀ ev ∈ t.hist, ¬ unbooked ev = true)) ∧
      c.state.admission.failedTotal = Machine.total failing c.tasks ∧
      (c.state.admission.goodputFraction = 1 → ∀ t ∈ c.tasks, ∀ x, t.Ended x → EngineFailed t.hist →
        ∃ ev ∈ t.hist, unbooked ev = true) := by
  have hbooked : ∀ t ∈ c.tasks, ∀ x, t.Ended x → EngineFailed t.hist → booking.Accounted t.hist := by
    intro t ht x hend hfail
    obtain ⟨e, body, hstart⟩ := hrun.handles t ht
    have hexec := hend.exec
    rw [hstart] at hexec
    exact endpoint_booked hexec hfail
  have htotal : c.state.admission.failedTotal = Machine.total failing c.tasks := by
    rw [failedTotal_reach hrun, hs]
    exact Nat.zero_add _
  refine ⟨fun t ht x hend hfail => (hbooked t ht x hend hfail).weight_eq_one_iff, htotal, fun hperfect t ht x hend hfail => ?_⟩
  have hcounted : Counted c.state := by
    refine Counted.reach (s := s) ?_ hrun
    unfold Counted; rw [hs]; exact Nat.le_refl _
  have hzero : Machine.weight failing t.hist = 0 := by
    have hsum : Machine.total failing c.tasks = 0 := htotal ▸ failedTotal_of_perfect hcounted hperfect
    exact List.sum_eq_zero_iff_forall_eq_nat.1 hsum _ (List.mem_map_of_mem ht)
  rcases hbooked t ht x hend hfail with ⟨hone, -⟩ | ⟨-, hlost⟩
  · exact absurd (hzero.symm.trans hone) Nat.zero_ne_one
  · exact hlost

end Scheduler

/-! ## A run of completions -/

/-- A completion run while nothing else happens, answered as `A` says. -/
def completionRun (A : Answers) (s : State ℚ) : List (Event (sig ℚ)) × State ℚ :=
  (machine oneBackend defaultCfg).solo A.env (serve (completions oneBackend hello)) s

theorem reach_completionRun {s₀ s : State ℚ} {ts : List (Task (sig ℚ) Exn)}
    (h : (machine oneBackend defaultCfg).Reach s₀ ⟨s, ts⟩) (A : Answers) :
    ∃ t x, (machine oneBackend defaultCfg).Reach s₀ ⟨(completionRun A s).2, ts ++ [t]⟩ ∧
      t.hist = (completionRun A s).1 ∧ t.Ended x :=
  h.solo ⟨.completions, hello, rfl⟩ A.env

/-- The one completion of a run, answered 500, is counted. -/
theorem engine_failures_counted_500 : ∃ c, (machine oneBackend defaultCfg).Reach (fleet defaultCfg [oneWorker]).sched c ∧
    c.tasks.length = 1 ∧ c.state.admission.failedTotal = 1 := by
  obtain ⟨t, x, hrun, hhist, hend⟩ := reach_completionRun (.refl : (machine oneBackend defaultCfg).Reach (fleet defaultCfg [oneWorker]).sched _)
    { post := .returned ⟨500, none, "Internal Server Error"⟩ }
  obtain ⟨hcounted, htotal, -⟩ := engine_failures_counted oneBackend defaultCfg rfl hrun
  have hone : Machine.weight failing t.hist = 1 := by
    refine (hcounted t (List.mem_singleton_self t) x hend ?_).2 ?_
    · rw [hhist]; decide +kernel
    · rw [hhist]; decide +kernel
  have hsum : Machine.total failing [t] = 1 := by simpa [Machine.total] using hone
  exact ⟨_, hrun, rfl, htotal.trans hsum⟩

/-- One completion answered 200 and one whose connection is refused: the goodput is perfect. -/
theorem refused_connection_uncounted : ∃ (c : Config (sig ℚ) Exn (State ℚ)) (t : Task (sig ℚ) Exn) (x : Except Exn Unit),
    (machine oneBackend defaultCfg).Reach (fleet defaultCfg [oneWorker]).sched c ∧ t ∈ c.tasks ∧ t.Ended x ∧
      EngineFailed t.hist ∧ Machine.weight failing t.hist = 0 ∧ c.state.admission.goodputFraction = 1 := by
  obtain ⟨t₁, x₁, hrun₁, -, -⟩ := reach_completionRun (.refl : (machine oneBackend defaultCfg).Reach (fleet defaultCfg [oneWorker]).sched _) {}
  obtain ⟨t, x, hrun, hhist, hend⟩ := reach_completionRun hrun₁ { post := .raised "connection refused" }
  refine ⟨_, t, x, hrun, by simp, hend, ?_, ?_, ?_⟩
  · rw [hhist]; decide +kernel
  · rw [hhist]; decide +kernel
  · show (completionRun _ (completionRun {} _).2).2.admission.goodputFraction = 1
    decide +kernel

end Dio.Gateway
