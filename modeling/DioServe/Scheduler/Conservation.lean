/-
Counter conservation. Over every interleaving of registrations, picks and closes, the admitted
requests are those completed, failed, released or still counted by a slot; and the counters of the
gate and of the affinity cache add up to the decisions they are about.
-/
import DioServe.Scheduler.Admission

namespace Dio.Scheduler

open Data Effect

variable {K : Type}

/-! ## The counters -/

/-- Moves that neither register a worker again, nor take one out, nor zero the statistics. -/
def Move.Counted (l : Ledger K) : Move K → Prop
  | .resetStats => False
  | m => m.Settled l

instance Move.decidableCounted (l : Ledger K) : (m : Move K) → Decidable (m.Counted l)
  | .resetStats => .isFalse id
  | .register r => Move.decidableSettled l (.register r)
  | .unregister w => Move.decidableSettled l (.unregister w)
  | .pick _ | .feedback _ _ _ _ | .release _ | .setHealthy _ _ | .setVram _ _ | .setEngineMetrics _ _
  | .noteFailure _ _ | .noteSuccess _ => .isTrue trivial

theorem Move.Counted.settled {l : Ledger K} {m : Move K} (h : m.Counted l) : m.Settled l := by
  cases m with
  | resetStats => exact trivial
  | _ => exact h

/-- The books: the counters, and the affinity statistics. -/
structure Books (K : Type) where
  stats : AdmissionStats K
  decisions : Nat
  hits : Nat

def State.books (s : State K) : Books K := ⟨s.admission, s.affinityDecisions, s.affinityHits⟩

/-- Every admitted request is completed, failed, released or in flight. -/
structure Balanced (b : Books K) (releases live : Nat) : Prop where
  admitted : b.stats.admitted = b.stats.completedTotal + b.stats.failedTotal + releases + live
  completed : b.stats.completedTotal = b.stats.completedUnderSlo + b.stats.completedOverSlo

/-- Each decision by cost is compared with the absolute gate, each admission with the affinity cache. -/
structure Compared (b : Books K) : Prop where
  compared : b.stats.wouldRejectAbsolute + b.stats.wouldAdmitAbsolute = b.stats.admitted + b.stats.rejectedSlo
  disagree : b.stats.absoluteVsActiveDisagree ≤ b.stats.admitted + b.stats.rejectedSlo
  decisions : b.decisions = b.stats.admitted
  hits : b.hits ≤ b.decisions

/-! ## What moves do to the books -/

/-- A report about a worker is not in the books. -/
theorem Reports.books {s s' : State K} (h : Reports s s') : s'.books = s.books := by
  rw [h.rest]
  rfl

/-- One more failure in the counters. -/
theorem Balanced.fail {b : Books K} {releases live : Nat} (h : Balanced b releases (live + 1)) :
    Balanced { b with stats := { b.stats with failedTotal := b.stats.failedTotal + 1 } } releases live := by
  have ha := h.admitted
  refine ⟨?_, h.completed⟩
  show b.stats.admitted = b.stats.completedTotal + (b.stats.failedTotal + 1) + releases + live
  omega

theorem Balanced.release {b : Books K} {releases live : Nat} (h : Balanced b releases (live + 1)) :
    Balanced b (releases + 1) live := by
  have ha := h.admitted
  refine ⟨?_, h.completed⟩
  show b.stats.admitted = b.stats.completedTotal + b.stats.failedTotal + (releases + 1) + live
  omega

variable [Field K] [LinearOrder K]

/-- One more completion in the counters. -/
theorem Balanced.complete {b : Books K} {releases live : Nat} (h : Balanced b releases (live + 1)) (sloMs e2eMs : K) :
    Balanced { b with stats := b.stats.complete sloMs e2eMs } releases live := by
  have ha := h.admitted
  have hc := h.completed
  constructor
  · show b.stats.admitted = b.stats.completedTotal + 1 + b.stats.failedTotal + releases + live
    omega
  · by_cases hslo : e2eMs ≤ sloMs
    · simp only [AdmissionStats.complete, if_pos hslo]; omega
    · simp only [AdmissionStats.complete, if_neg hslo]; omega

theorem Compared.complete {b : Books K} (h : Compared b) (sloMs e2eMs : K) :
    Compared { b with stats := b.stats.complete sloMs e2eMs } := ⟨h.compared, h.disagree, h.decisions, h.hits⟩

variable [FloorRing K] {cfg : Cfg K}

omit [Field K] [FloorRing K] in
/-- The counters of the gate after one more comparison. -/
theorem compareAbsolute_counts (cfg : Cfg K) (a : AdmissionStats K) (best : K) (v : Verdict) :
    (compareAbsolute cfg a best v).wouldRejectAbsolute + (compareAbsolute cfg a best v).wouldAdmitAbsolute =
      a.wouldRejectAbsolute + a.wouldAdmitAbsolute + 1 ∧
    (compareAbsolute cfg a best v).absoluteVsActiveDisagree ≤ a.absoluteVsActiveDisagree + 1 := by
  unfold compareAbsolute
  dsimp only
  constructor
  · split <;> omega
  · split <;> omega

theorem Balanced.pick {s : State K} {releases live : Nat} (h : Balanced s.books releases live) (a : PickArgs) :
    Balanced (pick cfg s a).2.books releases
      (live + match (pick cfg s a).1 with | .ok _ => 1 | .error _ => 0) := by
  have ha : s.admission.admitted = s.admission.completedTotal + s.admission.failedTotal + releases + live := h.admitted
  have hc := pick_cases cfg s a
  generalize Scheduler.pick cfg s a = r at hc ⊢
  cases hc with
  | nobody _ => exact ⟨h.admitted, h.completed⟩
  | shed _ _ _ _ => exact ⟨h.admitted, h.completed⟩
  | byCost d _ _ _ _ _ => exact ⟨congrArg (· + 1) ha, h.completed⟩
  | direct d _ _ _ _ => exact ⟨congrArg (· + 1) ha, h.completed⟩

theorem Compared.pick (hcost : cfg.strategy.byCost = true) {s : State K} (h : Compared s.books) (a : PickArgs) :
    Compared (pick cfg s a).2.books := by
  have hcmp : s.admission.wouldRejectAbsolute + s.admission.wouldAdmitAbsolute =
    s.admission.admitted + s.admission.rejectedSlo := h.compared
  have hdis : s.admission.absoluteVsActiveDisagree ≤ s.admission.admitted + s.admission.rejectedSlo := h.disagree
  have hdec : s.affinityDecisions = s.admission.admitted := h.decisions
  have hhits : s.affinityHits ≤ s.affinityDecisions := h.hits
  have hc := pick_cases cfg s a
  generalize Scheduler.pick cfg s a = r at hc ⊢
  cases hc with
  | nobody _ => exact ⟨h.compared, h.disagree, h.decisions, h.hits⟩
  | shed best scores _ _ =>
    obtain ⟨hsum, hle⟩ := compareAbsolute_counts cfg s.admission best (shouldRejectSlo cfg s.recentE2e best scores)
    refine ⟨hsum.trans ?_, hle.trans ?_, h.decisions, h.hits⟩
    · show _ = s.admission.admitted + (s.admission.rejectedSlo + 1)
      omega
    · show _ ≤ s.admission.admitted + (s.admission.rejectedSlo + 1)
      omega
  | byCost d scores _ _ _ _ =>
    obtain ⟨hsum, hle⟩ := compareAbsolute_counts cfg s.admission d.totalMs (shouldRejectSlo cfg s.recentE2e d.totalMs scores)
    refine ⟨hsum.trans ?_, hle.trans ?_, congrArg (· + 1) hdec, ?_⟩
    · show _ = s.admission.admitted + 1 + s.admission.rejectedSlo
      omega
    · show _ ≤ s.admission.admitted + 1 + s.admission.rejectedSlo
      omega
    · show (if d.affinityHit then s.affinityHits + 1 else s.affinityHits) ≤ s.affinityDecisions + 1
      split <;> omega
  | direct d _ _ hplain _ =>
    -- the direct strategies are not ranked by cost
    rw [hcost] at hplain
    cases hplain

/-! ## Runs -/

/-- The invariant: the books balance with the desk, and the comparisons add up. -/
structure Ledger.Sound (cfg : Cfg K) (l : Ledger K) : Prop where
  follows : l.Follows
  kept : l.desk.Kept
  balanced : Balanced l.sched.books l.desk.releases l.desk.live.length
  compared : cfg.strategy.byCost = true → Compared l.sched.books

omit [LinearOrder K] [FloorRing K] in
theorem Ledger.Sound.init : (Ledger.init : Ledger K).Sound cfg :=
  ⟨.init, .init, ⟨rfl, rfl⟩, fun _ => ⟨rfl, Nat.le_refl _, rfl, Nat.le_refl _⟩⟩

omit [Field K] [LinearOrder K] [FloorRing K] in
theorem length_erase_live {l : Ledger K} {t : Ticket String} (ht : t ∈ l.desk.live) :
    l.desk.live.length = (l.desk.live.erase t).length + 1 := by
  rw [List.length_erase_of_mem ht]
  have := List.length_pos_of_mem ht
  omega

/-- Every move keeps the books in balance with the desk. -/
theorem Ledger.balanced_exec {l : Ledger K} (hb : Balanced l.sched.books l.desk.releases l.desk.live.length)
    {m : Move K} (hen : m.Enabled l) (hok : m.Counted l) :
    Balanced (m.exec cfg l).sched.books (m.exec cfg l).desk.releases (m.exec cfg l).desk.live.length := by
  cases m with
  | register r => exact hb
  | unregister w => exact absurd hok id
  | pick a =>
    have hp : Balanced (pick cfg l.sched a).2.books l.desk.releases
        (l.desk.live.length + match (pick cfg l.sched a).1 with | .ok _ => 1 | .error _ => 0) := hb.pick a
    show Balanced (pick cfg l.sched a).2.books (l.desk.step _ (pickAct (pick cfg l.sched a).1)).releases
      (l.desk.step _ (pickAct (pick cfg l.sched a).1)).live.length
    -- the desk issues a ticket exactly where the counters took an admission.
    cases hr : (pick cfg l.sched a).1 with
    | error e => rw [hr] at hp; exact hp
    | ok p =>
      rw [hr] at hp
      have hlen : (l.desk.live ++ [l.desk.ticket p.1]).length = l.desk.live.length + 1 := by simp
      exact hlen ▸ hp
  | feedback t e2e tokens ok =>
    rw [length_erase_live hen] at hb
    cases ok with
    | true => exact hb.complete cfg.sloMs e2e
    | false => exact hb.fail
  | release t =>
    rw [length_erase_live hen] at hb
    exact hb.release
  | setHealthy w ok =>
    show Balanced (setHealthy l.sched w ok).books _ _
    rw [(reports_setHealthy _ _ _).books]; exact hb
  | setVram w f => exact hb
  | setEngineMetrics w s =>
    show Balanced (setEngineMetrics l.sched w s).books _ _
    rw [(reports_setEngineMetrics _ _ _).books]; exact hb
  | noteFailure w n =>
    show Balanced (noteFailure l.sched w n).2.books _ _
    rw [(reports_noteFailure _ _ _).books]; exact hb
  | noteSuccess w => exact hb
  | resetStats => exact absurd hok id

/-- Every move of a scheduler that picks by cost keeps the comparisons. -/
theorem Ledger.compared_exec (hcost : cfg.strategy.byCost = true) {l : Ledger K} (hc : Compared l.sched.books)
    {m : Move K} (hok : m.Counted l) : Compared (m.exec cfg l).sched.books := by
  cases m with
  | register r => exact hc
  | unregister w => exact absurd hok id
  | pick a => exact hc.pick hcost a
  | feedback t e2e tokens ok =>
    cases ok with
    | true => exact hc.complete cfg.sloMs e2e
    | false => exact ⟨hc.compared, hc.disagree, hc.decisions, hc.hits⟩
  | release t => exact hc
  | setHealthy w ok =>
    show Compared (setHealthy l.sched w ok).books
    rw [(reports_setHealthy _ _ _).books]; exact hc
  | setVram w f => exact hc
  | setEngineMetrics w s =>
    show Compared (setEngineMetrics l.sched w s).books
    rw [(reports_setEngineMetrics _ _ _).books]; exact hc
  | noteFailure w n =>
    show Compared (noteFailure l.sched w n).2.books
    rw [(reports_noteFailure _ _ _).books]; exact hc
  | noteSuccess w => exact hc
  | resetStats => exact absurd hok id

theorem Ledger.Sound.exec {l : Ledger K} (h : l.Sound cfg) {m : Move K} (hen : m.Enabled l) (hok : m.Counted l) :
    (m.exec cfg l).Sound cfg where
  follows := h.follows.exec m
  kept := h.kept.step (h.follows.enabled hen) (h.follows.settled hok.settled)
  balanced := Ledger.balanced_exec h.balanced hen hok
  compared hcost := Ledger.compared_exec hcost (h.compared hcost) hok

omit [Field K] [LinearOrder K] [FloorRing K] in
/-- The slots of all workers count the requests in flight. -/
theorem Ledger.Sound.sum_pending {l : Ledger K} (h : l.Sound cfg) (hn : (Dict.keys l.sched.predictors).Nodup) :
    (l.sched.predictors.map fun p => p.2.nlms.pending).sum = l.desk.live.length := by
  have hpending : ∀ p ∈ l.sched.predictors, p.2.nlms.pending = l.desk.outstanding p.1 := by
    intro p hp
    have hslot : l.sched.slot p.1 = some p.2.nlms.slot := by
      rw [State.slot, Dict.get?_of_mem_of_nodup hn hp]; rfl
    exact h.kept.pending p.1 _ (by rw [← h.follows]; exact hslot)
  have hmem : ∀ t ∈ l.desk.live, t.worker ∈ Dict.keys l.sched.predictors := by
    intro t ht
    rw [← isSome_slot_iff, h.follows]
    exact h.kept.registered t ht
  calc (l.sched.predictors.map fun p => p.2.nlms.pending).sum
      = ((Dict.keys l.sched.predictors).map l.desk.outstanding).sum := by
        rw [Dict.keys, List.map_map]; exact congrArg _ (List.map_congr_left hpending)
    _ = l.desk.live.length := Desk.sum_outstanding hn hmem

/-- Counter conservation. -/
structure Ledger.Conserved (cfg : Cfg K) (l : Ledger K) : Prop where
  admitted : l.sched.admission.admitted = l.sched.admission.completedTotal + l.sched.admission.failedTotal +
    l.desk.releases + (l.sched.predictors.map fun p => p.2.nlms.pending).sum
  pending : ∀ w x, Dict.get? l.sched.predictors w = some x → x.nlms.pending = l.desk.outstanding w
  completed : l.sched.admission.completedTotal =
    l.sched.admission.completedUnderSlo + l.sched.admission.completedOverSlo
  compared : cfg.strategy.byCost = true → Compared l.sched.books

theorem counters_conserved {l : Ledger K} (h : l.Reached cfg Move.Counted) : l.Conserved cfg := by
  have hs : l.Sound cfg := h.invariant .init fun _ _ hl hen hok => hl.exec hen hok
  refine ⟨?_, fun w x hx => ?_, hs.balanced.completed, hs.compared⟩
  · rw [hs.sum_pending h.nodup]
    exact hs.balanced.admitted
  · apply hs.kept.pending w x.nlms.slot
    rw [← hs.follows, State.slot, hx]
    rfl

theorem counters_conserved_slow : (Trace.play (Move.exec defaultCfg) .init slowStart).Conserved defaultCfg :=
  counters_conserved ⟨slowStart, by decide +kernel, rfl⟩

end Dio.Scheduler
