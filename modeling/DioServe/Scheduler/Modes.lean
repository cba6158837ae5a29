/-
The admission modes (`scheduler.py`, `_should_reject_slo`). They differ in admitting only: ranking
reads neither the mode nor the switch, so two schedulers that differ in these and both admit a request
pick the same worker and record the same.
-/
import DioServe.Scheduler.Admission
import DioServe.Scheduler.Ranking

namespace Dio.Scheduler

open Data Effect

variable {K : Type} [Field K] [LinearOrder K] [FloorRing K] {cfg : Cfg K}

/-! ## Another gate -/

/-- The configuration with another admission mode, and admission control on or off. -/
def Cfg.gated (cfg : Cfg K) (off : Bool) (mode : AdmissionMode) : Cfg K :=
  { cfg with admissionOff := off, admissionMode := mode }

omit [FloorRing K] in
@[simp] theorem ranking_gated (off : Bool) (mode : AdmissionMode) (s : State K) (a : PickArgs) :
    ranking (cfg.gated off mode) s a = ranking cfg s a := rfl

omit [FloorRing K] in
@[simp] theorem best_gated (off : Bool) (mode : AdmissionMode) (s : State K) (a : PickArgs) :
    best (cfg.gated off mode) s a = best cfg s a := rfl

/-- What is recorded of an admission by cost does not depend on the gate, the counters apart. -/
theorem pick_gated_ok (hcost : cfg.strategy.byCost = true) {off : Bool} {mode : AdmissionMode} {s : State K} {a : PickArgs}
    {r : String × RoutingDecision K} (h : (pick (cfg.gated off mode) s a).1 = .ok r) :
    best cfg s a = some r.2 ∧ r.1 = r.2.workerId ∧ ∃ admission,
      (pick (cfg.gated off mode) s a).2 = { admittedByCost cfg s (cfg.prefixHash a.prompt) r.2 with admission := admission } := by
  have hcost' : (cfg.gated off mode).strategy.byCost = true := hcost
  obtain ⟨hbest, hw⟩ := best_of_ok hcost' h
  refine ⟨hbest, hw, (pick (cfg.gated off mode) s a).2.admission, ?_⟩
  rw [pick_of_best hcost' hbest] at h ⊢
  unfold admitOrShed at h ⊢
  dsimp only at h ⊢
  split at h
  · cases h
  · rename_i hpass
    rw [if_neg hpass]
    rfl

/-- Without a candidate the gate is not asked. -/
theorem no_gate_counts (hcost : cfg.strategy.byCost = true) {s : State K} {a : PickArgs} (h : best cfg s a = none) :
    (pick cfg s a).2.admission.rejectedSlo = s.admission.rejectedSlo ∧
      (pick cfg s a).2.admission.rejectedSloSuppressed = s.admission.rejectedSloSuppressed := by
  obtain ⟨m, hm⟩ := pick_of_no_best hcost h
  rw [hm]
  exact ⟨rfl, rfl⟩

/-! ## What the modes have in common -/

/-- `strict` sheds what `empirical` sheds or counts as suppressed. -/
theorem strictGate_reject_iff (cfg cfg' : Cfg K) (hp : observedTail cfg' = observedTail cfg) (hslo : cfg'.sloMs = cfg.sloMs)
    (recent : List K) (score : K) (scores : List K) : (strictGate cfg recent).reject = true ↔
      (empiricalGate cfg' recent score scores).reject = true ∨ (empiricalGate cfg' recent score scores).suppressed = true := by
  unfold strictGate empiricalGate
  rw [hp, hslo]
  split
  · simp
  · split
    · split
      · simp
      · simp
    · simp

/-- Modes differ in admitting only: ranking never sheds; `strict` sheds what `empirical` sheds or counts as
suppressed; and two gates that both admit pick and record the same. -/
structure ModesAgree (cfg : Cfg K) (s : State K) (a : PickArgs) : Prop where
  ranks : ∀ off mode, off = true ∨ mode = .rankOnly →
    (pick (cfg.gated off mode) s a).2.admission.rejectedSlo = s.admission.rejectedSlo
  strict : ∀ off, Counts (·.rejectedSlo) (cfg.gated off .strict) s a ↔
    (Counts (·.rejectedSlo) (cfg.gated off .empirical) s a ∨ Counts (·.rejectedSloSuppressed) (cfg.gated off .empirical) s a)
  admits : ∀ off mode off' mode' r r', (pick (cfg.gated off mode) s a).1 = .ok r → (pick (cfg.gated off' mode') s a).1 = .ok r' →
    r = r' ∧ ∃ admission, (pick (cfg.gated off' mode') s a).2 = { (pick (cfg.gated off mode) s a).2 with admission := admission }

theorem modes_agree (hcost : cfg.strategy.byCost = true) (s : State K) (a : PickArgs) : ModesAgree cfg s a := by
  have hgated : ∀ off mode, (cfg.gated off mode).strategy.byCost = true := fun _ _ => hcost
  refine ⟨fun off mode hrank => ?_, fun off => ?_, fun off mode off' mode' r r' h h' => ?_⟩
  · cases hb : best cfg s a with
    | none => exact (no_gate_counts (hgated off mode) hb).1
    | some d =>
      have hopen : (shouldRejectSlo (cfg.gated off mode) s.recentE2e d.totalMs
          ((ranking (cfg.gated off mode) s a).map (·.totalMs))).reject = false := by
        unfold shouldRejectSlo
        rcases hrank with rfl | rfl
        · rfl
        · cases off <;> rfl
      have hpick := pick_of_best (hgated off mode) (s := s) (a := a) (d := d) hb
      rw [hpick]
      unfold admitOrShed
      dsimp only
      rw [hopen]
      rfl
  · cases hb : best cfg s a with
    | none =>
      have hstrict := no_gate_counts (hgated off .strict) (s := s) (a := a) hb
      have hempirical := no_gate_counts (hgated off .empirical) (s := s) (a := a) hb
      simp only [Counts]
      omega
    | some d =>
      rw [(gate_counts (hgated off .strict) (s := s) (a := a) (d := d) hb).1,
        (gate_counts (hgated off .empirical) (s := s) (a := a) (d := d) hb).1,
        (gate_counts (hgated off .empirical) (s := s) (a := a) (d := d) hb).2]
      cases off with
      | true => simp [verdict, shouldRejectSlo, Cfg.gated]
      | false => exact strictGate_reject_iff _ _ rfl rfl s.recentE2e d.totalMs _
  · obtain ⟨hb, hw, n, hs⟩ := pick_gated_ok hcost h
    obtain ⟨hb', hw', n', hs'⟩ := pick_gated_ok hcost h'
    have hd : r.2 = r'.2 := Option.some.inj (hb.symm.trans hb')
    refine ⟨Prod.ext (by rw [hw, hw', hd]) hd, n', ?_⟩
    rw [hs, hs', hd]

theorem modes_agree_slow : ModesAgree defaultCfg (Trace.play (Move.exec defaultCfg) .init slowStart).sched { prompt := "a" } :=
  modes_agree rfl (Trace.play (Move.exec defaultCfg) .init slowStart).sched { prompt := "a" }

end Dio.Scheduler
