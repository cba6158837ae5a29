/-
The ranking of a pick by cost (`scheduler.py`, `pick`): its candidates, the best of them, and what
becomes of it. The pick is an argmin over the unblocked candidates, the earliest registered of the
cheapest; and a rejection is booked under its cause only while somebody is unblocked.
-/
import DioServe.Scheduler.Breakdown
import DioServe.Scheduler.Traffic

namespace Dio.Scheduler

open Data Effect

/-! ## The first of the least -/

/-- Whatever stands before the minimum found has a larger key. -/
theorem foldl_min_first {α β : Type} [LinearOrder β] (key : α → β) : ∀ (xs : List α) (b : α),
    let m := xs.foldl (fun b y => if key y < key b then y else b) b
    m = b ∨ ∃ before after, xs = before ++ m :: after ∧ key m < key b ∧ ∀ y ∈ before, key m < key y
  | [], b => .inl rfl
  | x :: xs, b => by
    intro m
    by_cases hx : key x < key b
    · have hm : m = xs.foldl (fun b y => if key y < key b then y else b) x := by
        show List.foldl _ (if key x < key b then x else b) xs = _
        rw [if_pos hx]
      rcases foldl_min_first key xs x with h | ⟨before, after, hxs, hlt, hall⟩
      · exact .inr ⟨[], xs, by rw [hm, h]; rfl, by rw [hm, h]; exact hx, nofun⟩
      · rw [← hm] at hxs hlt hall
        refine .inr ⟨x :: before, after, by rw [List.cons_append, ← hxs], hlt.trans hx, ?_⟩
        rintro y hy
        rcases List.mem_cons.1 hy with rfl | hy
        · exact hlt
        · exact hall y hy
    · have hm : m = xs.foldl (fun b y => if key y < key b then y else b) b := by
        show List.foldl _ (if key x < key b then x else b) xs = _
        rw [if_neg hx]
      rcases foldl_min_first key xs b with h | ⟨before, after, hxs, hlt, hall⟩
      · exact .inl (hm.trans h)
      · rw [← hm] at hxs hlt hall
        refine .inr ⟨x :: before, after, by rw [List.cons_append, ← hxs], hlt, ?_⟩
        rintro y hy
        rcases List.mem_cons.1 hy with rfl | hy
        · exact lt_of_lt_of_le hlt (not_lt.1 hx)
        · exact hall y hy

theorem firstMin_first {α β : Type} [LinearOrder β] {key : α → β} {xs : List α} {m : α} (h : firstMin key xs = some m) :
    ∃ before after, xs = before ++ m :: after ∧ ∀ y ∈ before, key m < key y := by
  cases xs with
  | nil => cases h
  | cons x xs =>
    cases h
    rcases foldl_min_first key xs x with h | ⟨before, after, hxs, hlt, hall⟩
    · exact ⟨[], xs, by rw [h]; rfl, nofun⟩
    · refine ⟨x :: before, after, by rw [List.cons_append, ← hxs], ?_⟩
      rintro y hy
      rcases List.mem_cons.1 hy with rfl | hy
      · exact hlt
      · exact hall y hy

/-- Of distinct elements, one before the minimum found has a larger key. -/
theorem firstMin_lt_of_before {α β : Type} [LinearOrder β] {key : α → β} {xs : List α} {m y : α}
    (h : firstMin key xs = some m) (hn : xs.Nodup) (hy : [y, m].Sublist xs) : key m < key y := by
  obtain ⟨before, after, rfl, hall⟩ := firstMin_first h
  apply hall y
  have hm : m ∉ after := fun hm => (List.nodup_cons.1 hn.of_append_right).1 hm
  obtain ⟨l₁, l₂, hl, h₁, h₂⟩ := List.sublist_append_iff.1 hy
  cases l₁ with
  | nil =>
    rw [List.nil_append] at hl
    subst hl
    exact absurd ((List.cons_sublist_cons'.1 h₂).elim (fun h => h.subset (by simp)) fun h => h.2.subset (by simp)) hm
  | cons z l₁ =>
    have hz : z = y := (List.cons.inj hl).1.symm
    exact hz ▸ h₁.subset (List.mem_cons_self ..)

/-- A sublist of distinct elements is the filter for its members. -/
theorem eq_filter_of_sublist {α : Type} [DecidableEq α] {xs ys : List α} (h : xs.Sublist ys) (hn : ys.Nodup) :
    xs = ys.filter (· ∈ xs) := by
  induction h with
  | slnil => rfl
  | @cons xs ys a hs ih =>
    obtain ⟨ha, hn⟩ := List.nodup_cons.1 hn
    rw [List.filter_cons_of_neg (by simpa using fun hm => ha (hs.subset hm))]
    exact ih hn
  | @cons_cons xs ys a hs ih =>
    obtain ⟨ha, hn⟩ := List.nodup_cons.1 hn
    rw [List.filter_cons_of_pos (by simp)]
    refine congrArg (a :: ·) ((ih hn).trans (List.filter_congr fun y hy => ?_))
    have hne : y ≠ a := fun he => ha (he ▸ hy)
    simp [hne]

variable {K : Type} [Field K] [LinearOrder K] {cfg : Cfg K}

/-! ## The best candidate -/

/-- The unblocked candidates of a pick by cost. -/
def ranking (cfg : Cfg K) (s : State K) (a : PickArgs) : List (RoutingDecision K) :=
  candidates cfg s (eligible s a.allowedBackends) a.count a.tier (cfg.prefixHash a.prompt)

/-- The cheapest of them. -/
def best (cfg : Cfg K) (s : State K) (a : PickArgs) : Option (RoutingDecision K) :=
  firstMin (·.totalMs) (ranking cfg s a)

/-- A worker that is healthy, allowed and not blocked, with its breakdown. -/
def Rated (cfg : Cfg K) (s : State K) (a : PickArgs) (id : String) (d : RoutingDecision K) : Prop :=
  id ∈ eligible s a.allowedBackends ∧
    ∃ w, Dict.get? s.predictors id = some w ∧ score cfg s id w a.count a.tier (cfg.prefixHash a.prompt) = some d

theorem Rated.mem {s : State K} {a : PickArgs} {id : String} {d : RoutingDecision K} (h : Rated cfg s a id d) :
    d ∈ ranking cfg s a := by
  obtain ⟨hid, w, hw, hd⟩ := h
  exact mem_candidates.2 ⟨id, hid, w, hw, hd⟩

theorem exists_rated {s : State K} {a : PickArgs} {d : RoutingDecision K} (h : d ∈ ranking cfg s a) :
    Rated cfg s a d.workerId d := by
  obtain ⟨id, hid, w, hw, hd⟩ := mem_candidates.1 h
  have hself : d.workerId = id := by rw [score_workerId hd]; rfl
  exact ⟨hself ▸ hid, w, hself ▸ hw, hself ▸ hd⟩

theorem Rated.workerId {s : State K} {a : PickArgs} {id : String} {d : RoutingDecision K} (h : Rated cfg s a id d) :
    d.workerId = id := by
  obtain ⟨-, w, -, hd⟩ := h
  rw [score_workerId hd]
  rfl

theorem nodup_ranking {s : State K} (hn : (Dict.keys s.predictors).Nodup) (a : PickArgs) : (ranking cfg s a).Nodup := by
  refine (nodup_eligible hn _).filterMap fun id id' d hd hd' => ?_
  obtain ⟨w, -, hw⟩ := Option.bind_eq_some_iff.1 hd
  obtain ⟨w', -, hw'⟩ := Option.bind_eq_some_iff.1 hd'
  have h : d.workerId = id := by rw [score_workerId hw]; rfl
  have h' : d.workerId = id' := by rw [score_workerId hw']; rfl
  exact h.symm.trans h'

/-- Candidates stand in the order of registration. -/
theorem sublist_ranking {s : State K} (hn : (Dict.keys s.predictors).Nodup) {a : PickArgs} {id id' : String}
    {d d' : RoutingDecision K} (h : Rated cfg s a id d) (h' : Rated cfg s a id' d')
    (hs : [id, id'].Sublist (Dict.keys s.predictors)) : [d, d'].Sublist (ranking cfg s a) := by
  have hsub : (eligible s a.allowedBackends).Sublist (Dict.keys s.predictors) := by
    have hh : s.healthyIds.Sublist (Dict.keys s.predictors) := List.filter_sublist.map Prod.fst
    unfold eligible
    split
    · exact hh
    · exact List.filter_sublist.trans hh
  have hids : [id, id'].Sublist (eligible s a.allowedBackends) := by
    rw [eq_filter_of_sublist hsub hn]
    have hf := hs.filter fun x => decide (x ∈ eligible s a.allowedBackends)
    rwa [List.filter_cons_of_pos (by simpa using h.1), List.filter_cons_of_pos (by simpa using h'.1)] at hf
  obtain ⟨-, w, hw, hd⟩ := h
  obtain ⟨-, w', hw', hd'⟩ := h'
  have hf := hids.filterMap fun x =>
    (Dict.get? s.predictors x).bind fun y => score cfg s x y a.count a.tier (cfg.prefixHash a.prompt)
  unfold ranking candidates
  simpa [hw, hw', hd, hd'] using hf

theorem ranking_eq_nil {s : State K} {a : PickArgs} (h : best cfg s a = none) : ranking cfg s a = [] := by
  by_contra hne
  obtain ⟨d, hd⟩ := firstMin_ne_none (fun d : RoutingDecision K => d.totalMs) hne
  have hbest : best cfg s a = some d := hd
  rw [h] at hbest
  cases hbest

/-! ## What becomes of a pick by cost -/

variable [FloorRing K]

/-- With somebody eligible but no candidate, no backend is feasible. -/
theorem pick_infeasible (hcost : cfg.strategy.byCost = true) {s : State K} {a : PickArgs} (h : best cfg s a = none)
    (hne : eligible s a.allowedBackends ≠ []) : pick cfg s a = rejectNoWorker cfg s "no feasible backend" := by
  have hnil : candidates cfg s (eligible s a.allowedBackends) a.count a.tier (cfg.prefixHash a.prompt) = [] :=
    ranking_eq_nil h
  rw [pick_eq_pickCost hcost hne]
  unfold pickCost
  dsimp only
  rw [hnil]
  rfl

/-- Without a candidate nobody takes the request. -/
theorem pick_of_no_best (hcost : cfg.strategy.byCost = true) {s : State K} {a : PickArgs} (h : best cfg s a = none) :
    ∃ message, pick cfg s a = rejectNoWorker cfg s message := by
  by_cases hne : eligible s a.allowedBackends = []
  · exact ⟨_, if_pos hne⟩
  · exact ⟨_, pick_infeasible hcost h hne⟩

/-- The gate decides about the best candidate. -/
theorem pick_of_best (hcost : cfg.strategy.byCost = true) {s : State K} {a : PickArgs} {d : RoutingDecision K}
    (h : best cfg s a = some d) :
    pick cfg s a = admitOrShed cfg s (cfg.prefixHash a.prompt) d ((ranking cfg s a).map (·.totalMs)) := by
  have hne : eligible s a.allowedBackends ≠ [] := by
    intro hnil
    have hr : ranking cfg s a = [] := by rw [ranking, hnil]; rfl
    rw [best, hr] at h
    cases h
  have hfirst : firstMin (·.totalMs)
      (candidates cfg s (eligible s a.allowedBackends) a.count a.tier (cfg.prefixHash a.prompt)) = some d := h
  rw [pick_eq_pickCost hcost hne]
  unfold pickCost
  dsimp only
  rw [hfirst]
  rfl

/-- An admitted request goes to the best candidate. -/
theorem best_of_ok (hcost : cfg.strategy.byCost = true) {s : State K} {a : PickArgs} {c : String} {d : RoutingDecision K}
    (h : (pick cfg s a).1 = .ok (c, d)) : best cfg s a = some d ∧ c = d.workerId := by
  cases hb : best cfg s a with
  | none =>
    obtain ⟨m, hm⟩ := pick_of_no_best hcost hb
    rw [hm] at h
    cases h
  | some b =>
    rw [pick_of_best hcost hb] at h
    unfold admitOrShed at h
    dsimp only at h
    split at h
    · cases h
    · cases h
      exact ⟨rfl, rfl⟩

/-! ## An argmin with bounded regret -/

section Argmin

variable [IsStrictOrderedRing K]

omit [FloorRing K] in
theorem decision_cacheBonusMs_nonneg (hc : NonnegCosts cfg) {s : State K} {id : String} (hr : 0 ≤ hitRate cfg s id)
    (w : Worker K) (tokens : Int) (tier : String) (pkey : Nat) : 0 ≤ (decision cfg s id w tokens tier pkey).cacheBonusMs := by
  rw [decision_cacheBonusMs]
  exact le_min (bonusRaw_nonneg hc hr pkey) (le_max_left 0 _)

omit [FloorRing K] [IsStrictOrderedRing K] in
theorem decision_cacheBonusMs_le (s : State K) (id : String) (w : Worker K) (tokens : Int) (tier : String) (pkey : Nat) :
    (decision cfg s id w tokens tier pkey).cacheBonusMs ≤ bonusRaw cfg s id pkey := by
  rw [decision_cacheBonusMs]
  exact min_le_left _ _

omit [FloorRing K] in
/-- A worker that costs no more than another beats it, bonuses apart, by no more than its own bonuses. -/
theorem regret_le (hc : NonnegCosts cfg) {s : State K} {c v : String} (hrate : 0 ≤ hitRate cfg s v) {w wv : Worker K}
    {tokens : Int} {tier : String} {pkey : Nat} {d dv : RoutingDecision K} (hd : score cfg s c w tokens tier pkey = some d)
    (hdv : score cfg s v wv tokens tier pkey = some dv) (hle : d.totalMs ≤ dv.totalMs) :
    (d.totalMs + d.cacheBonusMs) - (dv.totalMs + dv.cacheBonusMs) ≤
      (if d.affinityHit then cfg.cacheBonusMs else 0) + cfg.enginePrefixHitBonusMs * hitRate cfg s c := by
  have heq : d = decision cfg s c w tokens tier pkey := score_workerId hd
  have heqv : dv = decision cfg s v wv tokens tier pkey := score_workerId hdv
  have hbonus : d.cacheBonusMs ≤ bonusRaw cfg s c pkey := heq ▸ decision_cacheBonusMs_le s c w tokens tier pkey
  have hbonusv : 0 ≤ dv.cacheBonusMs := heqv ▸ decision_cacheBonusMs_nonneg hc hrate wv tokens tier pkey
  have hhit : d.affinityHit = affinityHit cfg s c pkey := heq ▸ rfl
  rw [hhit, mul_comm cfg.enginePrefixHitBonusMs]
  unfold bonusRaw at hbonus
  linarith

/-- The pick is the cheapest of the unblocked candidates, the earliest registered of those; and what its
bonuses let it win by is bounded by the configured ones. -/
structure Cheapest (cfg : Cfg K) (s : State K) (a : PickArgs) (c : String) (d : RoutingDecision K) : Prop where
  healthy : c ∈ s.healthyIds
  allowed : ∀ ids, a.allowedBackends = some ids → c ∈ ids
  unblocked : ∃ w, Dict.get? s.predictors c = some w ∧ hardBlocked cfg s c w.nlms a.count a.tier = false
  minimal : ∀ v dv, Rated cfg s a v dv → d.totalMs ≤ dv.totalMs
  earliest : ∀ v dv, Rated cfg s a v dv → [v, c].Sublist (Dict.keys s.predictors) → d.totalMs < dv.totalMs
  regret : ∀ v dv, Rated cfg s a v dv → (d.totalMs + d.cacheBonusMs) - (dv.totalMs + dv.cacheBonusMs) ≤
    (if d.affinityHit then cfg.cacheBonusMs else 0) + cfg.enginePrefixHitBonusMs * hitRate cfg s c

end Argmin

/-! ## The causes of a rejection -/

/-- The pick counts one more of these. -/
def Counts (count : AdmissionStats K → Nat) (cfg : Cfg K) (s : State K) (a : PickArgs) : Prop :=
  count (pick cfg s a).2.admission = count s.admission + 1

/-- What the gate says about the best candidate. -/
def verdict (cfg : Cfg K) (s : State K) (a : PickArgs) (d : RoutingDecision K) : Verdict :=
  shouldRejectSlo cfg s.recentE2e d.totalMs ((ranking cfg s a).map (·.totalMs))

/-- The counters of the gate after a pick: it counts a rejection where it rejects, and a suppressed one where
it says so. -/
theorem gate_counts (hcost : cfg.strategy.byCost = true) {s : State K} {a : PickArgs} {d : RoutingDecision K}
    (h : best cfg s a = some d) :
    (Counts (·.rejectedSlo) cfg s a ↔ (verdict cfg s a d).reject = true) ∧
      (Counts (·.rejectedSloSuppressed) cfg s a ↔ (verdict cfg s a d).suppressed = true) := by
  have hne : ∀ n : Nat, n ≠ n + 1 := fun n => Nat.ne_of_lt (Nat.lt_succ_self n)
  have hsuppressed : ∀ (n : Nat) (b : Bool), (if b then n + 1 else n) = n + 1 ↔ b = true := by
    intro n b
    cases b with
    | false => exact iff_of_false (hne n) (by simp)
    | true => exact iff_of_true rfl rfl
  unfold Counts
  rw [pick_of_best hcost h]
  unfold admitOrShed
  dsimp only
  constructor
  · split
    · rename_i hr
      exact iff_of_true rfl hr
    · rename_i hr
      exact iff_of_false (hne s.admission.rejectedSlo) hr
  · split
    · exact hsuppressed s.admission.rejectedSloSuppressed _
    · exact hsuppressed s.admission.rejectedSloSuppressed _

/-- The gate sheds the best candidate. -/
def GateSheds (cfg : Cfg K) (s : State K) (a : PickArgs) : Prop :=
  ∃ d, best cfg s a = some d ∧ (verdict cfg s a d).reject = true

/-- Every rejection is booked under its cause: nobody healthy and allowed; everybody hard-blocked; the gate. -/
structure BookedRight (cfg : Cfg K) (s : State K) (a : PickArgs) : Prop where
  noWorker : Counts (·.rejectedNoWorker) cfg s a ↔ eligible s a.allowedBackends = []
  blocked : eligible s a.allowedBackends ≠ [] →
    (∀ id ∈ eligible s a.allowedBackends, ∀ w, Dict.get? s.predictors id = some w →
      hardBlocked cfg s id w.nlms a.count a.tier = true) →
    (∃ e, (pick cfg s a).1 = .error e) ∧ Counts (·.rejectedVram) cfg s a
  slo : Counts (·.rejectedSlo) cfg s a ↔ GateSheds cfg s a

/-- Some worker that is healthy and allowed is neither hard-blocked nor out of the ranking for a learner that
blew up. -/
def Unblocked (cfg : Cfg K) (s : State K) (a : PickArgs) : Prop :=
  ∃ id ∈ eligible s a.allowedBackends, ∃ w, Dict.get? s.predictors id = some w ∧
    hardBlocked cfg s id w.nlms a.count a.tier = false ∧ (estimate cfg w a.count).1 < overflowMs

omit [FloorRing K] in
theorem unblocked_iff {s : State K} {a : PickArgs} : Unblocked cfg s a ↔ best cfg s a ≠ none := by
  constructor
  · rintro ⟨id, hid, w, hw, hb, hest⟩ hnone
    have hs : score cfg s id w a.count a.tier (cfg.prefixHash a.prompt) =
        some (decision cfg s id w a.count a.tier (cfg.prefixHash a.prompt)) := score_eq_some_iff.2 ⟨hb, hest, rfl⟩
    have hmem : decision cfg s id w a.count a.tier (cfg.prefixHash a.prompt) ∈ ranking cfg s a :=
      Rated.mem ⟨hid, w, hw, hs⟩
    rw [ranking_eq_nil hnone] at hmem
    cases hmem
  · intro hsome
    obtain ⟨d, hd⟩ := Option.ne_none_iff_exists'.1 hsome
    obtain ⟨hid, w, hw, hs⟩ := exists_rated (firstMin_spec hd).1
    obtain ⟨hb, hest, -⟩ := score_eq_some_iff.1 hs
    exact ⟨d.workerId, hid, w, hw, hb, hest⟩

/-- Whoever is asked, nobody takes the request and only one counter moves. -/
theorem booked_of_no_best (hcost : cfg.strategy.byCost = true) {s : State K} {a : PickArgs} (h : best cfg s a = none) :
    Counts (·.rejectedNoWorker) cfg s a ∧ ¬ Counts (·.rejectedSlo) cfg s a ∧ ¬ GateSheds cfg s a := by
  obtain ⟨m, hm⟩ := pick_of_no_best hcost h
  refine ⟨?_, ?_, ?_⟩
  · unfold Counts
    rw [hm]
    rfl
  · unfold Counts
    rw [hm]
    exact Nat.ne_of_lt (Nat.lt_succ_self s.admission.rejectedSlo)
  · rintro ⟨d, hd, -⟩
    rw [h] at hd
    cases hd

/-- With a best candidate nobody is booked as missing, and the gate alone decides about the SLO count. -/
theorem booked_of_best (hcost : cfg.strategy.byCost = true) {s : State K} {a : PickArgs} {d : RoutingDecision K}
    (h : best cfg s a = some d) :
    ¬ Counts (·.rejectedNoWorker) cfg s a ∧ (Counts (·.rejectedSlo) cfg s a ↔ GateSheds cfg s a) := by
  constructor
  · unfold Counts
    rw [pick_of_best hcost h]
    unfold admitOrShed
    dsimp only
    split
    · exact Nat.ne_of_lt (Nat.lt_succ_self s.admission.rejectedNoWorker)
    · exact Nat.ne_of_lt (Nat.lt_succ_self s.admission.rejectedNoWorker)
  · rw [(gate_counts hcost h).1]
    constructor
    · exact fun hr => ⟨d, h, hr⟩
    · rintro ⟨d', hd', hr⟩
      rw [h] at hd'
      cases hd'
      exact hr

theorem bookedRight_iff (hcost : cfg.strategy.byCost = true) (s : State K) (a : PickArgs) :
    BookedRight cfg s a ↔ (eligible s a.allowedBackends = [] ∨ Unblocked cfg s a) := by
  constructor
  · intro h
    by_cases hb : Unblocked cfg s a
    · exact .inr hb
    · have hnone : best cfg s a = none := not_not.1 fun hne => hb (unblocked_iff.2 hne)
      exact .inl (h.noWorker.1 (booked_of_no_best hcost hnone).1)
  · rintro (hnil | hb)
    · have hnone : best cfg s a = none := by
        have hr : ranking cfg s a = [] := by rw [ranking, hnil]; rfl
        rw [best, hr]
        rfl
      obtain ⟨hno, hslo, hgate⟩ := booked_of_no_best hcost hnone
      exact ⟨iff_of_true hno hnil, fun hne => absurd hnil hne, iff_of_false hslo hgate⟩
    · obtain ⟨d, hd⟩ := Option.ne_none_iff_exists'.1 (unblocked_iff.1 hb)
      obtain ⟨hno, hslo⟩ := booked_of_best hcost hd
      obtain ⟨id, hid, w, hw, hfree, -⟩ := hb
      refine ⟨iff_of_false hno (List.ne_nil_of_mem hid), fun _ hall => ?_, hslo⟩
      rw [hall id hid w hw] at hfree
      cases hfree

/-- A worker with 2000 MB free, and nothing else. -/
def shortOfMemory : List (Move ℚ) := [.register { oneWorker with freeVramMb := some 2000 }]

end Dio.Scheduler
