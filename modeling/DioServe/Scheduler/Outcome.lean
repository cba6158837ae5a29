/-
What one `pick` can do (`scheduler.py`): it ends in one of four ways, each admitting one worker of
the eligible ones or leaving everything but the admission counters alone. The `strict` admission
mode gates the strategies that rank by cost and no other.
-/
import DioServe.Scheduler.Gate

namespace Dio.Scheduler

open Data

variable {K : Type} [Field K] [LinearOrder K] [FloorRing K] {cfg : Cfg K}

/-! ## The ways a pick ends -/

/-- The state in which the gate has compared itself with the absolute one. -/
def compared (cfg : Cfg K) (s : State K) (best : K) (v : Verdict) : State K :=
  { s with admission := compareAbsolute cfg s.admission best v }

/-- How a `pick` ends: nobody can take the request; the gate sheds it; the best worker by cost takes
it; or a strategy without a cost model chooses a worker. -/
inductive PickCase (cfg : Cfg K) (s : State K) (a : PickArgs) : Picked K → Prop
  | nobody (message : String) : PickCase cfg s a (rejectNoWorker cfg s message)
  | shed (best : K) (scores : List K) (hcost : cfg.strategy.byCost = true)
      (hreject : (shouldRejectSlo cfg s.recentE2e best scores).reject = true) :
      PickCase cfg s a (rejectSlo cfg (compared cfg s best (shouldRejectSlo cfg s.recentE2e best scores)) best
        (shouldRejectSlo cfg s.recentE2e best scores))
  | byCost (d : RoutingDecision K) (scores : List K) (hcost : cfg.strategy.byCost = true)
      (hmem : d.workerId ∈ eligible s a.allowedBackends)
      (hhit : d.affinityHit = affinityHit cfg s d.workerId (cfg.prefixHash a.prompt))
      (hpass : (shouldRejectSlo cfg s.recentE2e d.totalMs scores).reject = false) :
      PickCase cfg s a (.ok (d.workerId, d),
        admittedByCost cfg (compared cfg s d.totalMs (shouldRejectSlo cfg s.recentE2e d.totalMs scores))
          (cfg.prefixHash a.prompt) d)
  | direct (d : RoutingDecision K) (i : Nat) (last : Option (RoutingDecision K)) (hplain : cfg.strategy.byCost = false)
      (hmem : d.workerId ∈ eligible s a.allowedBackends) :
      PickCase cfg s a (.ok (d.workerId, d), { admitted cfg { s with rrIndex := i } d with lastDecision := last })

omit [FloorRing K] in
/-- What blocks a worker outright: short memory, a full KV cache, or the tier. -/
theorem hardBlocked_iff {s : State K} {id : String} {m : DualTimescaleNlms K} {tokens : Int} {tier : String} :
    hardBlocked cfg s id m tokens tier = true ↔
      (cfg.ablation.disableVramHard = false ∧ (((0 < m.freeVramMb ∧ m.freeVramMb < cfg.vramHardMb) ∧ 1000 < tokens) ∨
        ∃ eng, engine cfg s id = some eng ∧ 95 / 100 < eng.kvCacheUsage ∧ 500 < tokens)) ∨
      (cfg.ablation.disableTier = false ∧ tier = "large" ∧ m.tier ≠ "large") := by
  unfold hardBlocked
  cases engine cfg s id <;> simp [and_assoc]

omit [FloorRing K] in
theorem score_workerId {s : State K} {id : String} {w : Worker K} {tokens : Int} {tier : String} {pkey : Nat}
    {d : RoutingDecision K} (h : score cfg s id w tokens tier pkey = some d) :
    d = decision cfg s id w tokens tier pkey :=
  (score_eq_some_iff.1 h).2.2.symm

theorem pickCost_cases (hcost : cfg.strategy.byCost = true) (s : State K) (a : PickArgs) (tokens : Int) :
    PickCase cfg s a (pickCost cfg s (eligible s a.allowedBackends) a.prompt tokens a.tier) := by
  unfold pickCost
  dsimp only
  split
  · rename_i hnone
    have hc : candidates cfg s (eligible s a.allowedBackends) tokens a.tier (cfg.prefixHash a.prompt) = [] := by
      by_contra hne
      obtain ⟨d, hd⟩ := firstMin_ne_none (fun d : RoutingDecision K => d.totalMs) hne
      rw [hnone] at hd
      cases hd
    rw [hc]
    exact .nobody _
  · rename_i best hbest
    obtain ⟨id, hid, w, -, hscore⟩ := mem_candidates.1 (firstMin_spec hbest).1
    obtain rfl := score_workerId hscore
    unfold admitOrShed
    dsimp only
    split
    · rename_i hr
      exact .shed _ _ hcost hr
    · rename_i hr
      exact .byCost _ _ hcost hid rfl (Bool.not_eq_true _ ▸ hr)

theorem pickEwma_cases (hplain : cfg.strategy.byCost = false) (s : State K) (a : PickArgs) (tokens : Int) :
    PickCase cfg s a (pickEwma cfg s (eligible s a.allowedBackends) tokens) := by
  unfold pickEwma
  split
  · rename_i w hw
    exact .direct _ s.rrIndex _ hplain (List.mem_of_mem_filter (firstMin_spec hw).1)
  · split
    · rename_i d hd
      obtain ⟨w, hw, rfl⟩ := List.mem_map.1 (firstMin_spec hd).1
      exact .direct _ s.rrIndex _ hplain hw
    · exact .nobody _

theorem pick_cases (cfg : Cfg K) (s : State K) (a : PickArgs) : PickCase cfg s a (pick cfg s a) := by
  unfold pick
  dsimp only
  split
  · exact .nobody _
  · rename_i hne
    have hcase : ∀ {c : Strategy}, cfg.strategy = c → cfg.strategy.byCost = c.byCost := fun h => by rw [h]
    cases hs : cfg.strategy with
    | nlms => exact pickCost_cases (hcase hs) s a _
    | rls => exact pickCost_cases (hcase hs) s a _
    | static => exact pickCost_cases (hcase hs) s a _
    | ewma => exact pickEwma_cases (hcase hs) s a _
    | roundRobin =>
      have hlt : (s.rrIndex + 1) % (eligible s a.allowedBackends).length < (eligible s a.allowedBackends).length :=
        Nat.mod_lt _ (List.length_pos_iff.2 hne)
      refine .direct _ _ s.lastDecision (hcase hs) ?_
      show (eligible s a.allowedBackends).getD _ "" ∈ _
      rw [List.getD_eq_getElem?_getD, List.getElem?_eq_getElem hlt]
      exact List.getElem_mem hlt
    | leastLoaded =>
      obtain ⟨w, hw⟩ := firstMin_ne_none (pending s) hne
      refine .direct _ s.rrIndex s.lastDecision (hcase hs) ?_
      show (firstMin (pending s) (eligible s a.allowedBackends)).getD "" ∈ _
      rw [hw]
      exact (firstMin_spec hw).1

/-- A pick leaves the telemetry alone. -/
theorem pick_engineSnap (cfg : Cfg K) (s : State K) (a : PickArgs) : (pick cfg s a).2.engineSnap = s.engineSnap := by
  have hc := pick_cases cfg s a
  generalize pick cfg s a = r at hc ⊢
  cases hc <;> rfl

end Dio.Scheduler
