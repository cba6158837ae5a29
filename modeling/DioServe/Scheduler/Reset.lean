/-
Resetting the statistics (`scheduler.py`, `reset_stats`). Next to the counters and logs it clears `prefix_cache`,
which `_score` reads: two runs of the same requests and closes, one after a reset and one without it, route alike
as long as no pick meets an affinity entry that only the reset dropped.
-/
import DioServe.Data.Lru
import DioServe.Scheduler.Ranking

namespace Dio.Scheduler

open Data Effect

/-! ## Minima of ranks -/

/-- The first of the least is found by what the key reads alone. -/
theorem firstMin_map {α β γ : Type} [LinearOrder γ] (f : α → β) (key : β → γ) (xs : List α) :
    firstMin key (xs.map f) = (firstMin (fun x => key (f x)) xs).map f := by
  cases xs with
  | nil => rfl
  | cons x xs =>
    have hfold : ∀ (ys : List α) (b : α), (ys.map f).foldl (fun b y => if key y < key b then y else b) (f b) =
        f (ys.foldl (fun b y => if key (f y) < key (f b) then y else b) b) := by
      intro ys
      induction ys with
      | nil => exact fun _ => rfl
      | cons y ys ih =>
        intro b
        rw [List.map_cons, List.foldl_cons, List.foldl_cons, ← ih]
        split <;> rfl
    exact congrArg some (hfold xs x)

variable {K : Type}

/-! ## Two schedulers side by side -/

/-- A scheduler forked: with its statistics kept, with them reset, and the prompt keys admitted since. -/
structure Fork (K : Type) where
  kept : State K
  reset : State K
  renewed : List Nat

/-- A request or a close. -/
def Move.Request : Move K → Prop
  | .pick _ | .feedback _ _ _ _ | .release _ => True
  | _ => False

/-- Two states that differ in their statistics, and in affinity entries of keys not renewed. -/
structure RoutesAlike (renewed : List Nat) (s s' : State K) : Prop where
  predictors : s'.predictors = s.predictors
  engineSnap : s'.engineSnap = s.engineSnap
  rrIndex : s'.rrIndex = s.rrIndex
  recentE2e : s'.recentE2e = s.recentE2e
  cache : Lru.Newest renewed s.prefixCache s'.prefixCache

theorem RoutesAlike.eligible {renewed : List Nat} {s s' : State K} (h : RoutesAlike renewed s s') (allowed : Option (List String)) :
    eligible s' allowed = eligible s allowed := by
  apply eligible_congr
  unfold State.healthyIds
  rw [h.predictors]

variable [Field K]

def Fork.start [LinearOrder K] (s : State K) : Fork K := ⟨s, resetStats s, []⟩

theorem routesAlike_resetStats [LinearOrder K] (s : State K) : RoutesAlike [] s (resetStats s) :=
  ⟨rfl, rfl, rfl, rfl, .empty _⟩

variable [LinearOrder K] [FloorRing K] (cfg : Cfg K)

/-- What the caller of a pick gets: the worker, or the error. -/
def answer (s : State K) (a : PickArgs) : Except AdmissionError String := (pick cfg s a).1.map Prod.fst

/-- The keys renewed after a pick. -/
def renew (renewed : List Nat) (s : State K) (a : PickArgs) : List Nat :=
  if cfg.strategy.byCost ∧ (answer cfg s a).toBool then cfg.prefixHash a.prompt :: renewed else renewed

/-- A move on both. -/
def Fork.exec (m : Move K) (t : Fork K) : Fork K :=
  { kept := m.onSched cfg t.kept
    reset := m.onSched cfg t.reset
    renewed := match m with
      | .pick a => renew cfg t.renewed t.kept a
      | _ => t.renewed }

/-- A pick gives its caller the same on both sides. -/
def SameAnswer (t : Fork K) (m : Move K) : Prop := ∀ a, m = .pick a → answer cfg t.kept a = answer cfg t.reset a

/-- No unblocked worker of a pick is the one that the kept affinity map remembers for its key from before the reset. -/
def NothingLost (t : Fork K) (a : PickArgs) : Prop :=
  cfg.strategy.byCost = true → cfg.cacheBonusMs ≠ 0 → cfg.prefixHash a.prompt ∉ t.renewed →
    ∀ d ∈ ranking cfg t.kept a, affinityHit cfg t.kept d.workerId (cfg.prefixHash a.prompt) = false

variable {cfg} {renewed : List Nat} {s s' : State K}

/-! ## Picks route alike -/

omit [Field K] [LinearOrder K] [FloorRing K] in
theorem engine_congr (h : s'.engineSnap = s.engineSnap) (w : String) : engine cfg s' w = engine cfg s w := by
  unfold engine
  rw [h]

/-- The worker and the cost of a candidate. -/
def RoutingDecision.rank (d : RoutingDecision K) : String × K := (d.workerId, d.totalMs)

/-- The affinity bonus before clamping. -/
def affinityBonusMs (cfg : Cfg K) (s : State K) (workerId : String) (pkey : Nat) : K :=
  if affinityHit cfg s workerId pkey then cfg.cacheBonusMs else 0

omit [FloorRing K] in
theorem rank_decision (he : s'.engineSnap = s.engineSnap) {id : String} {w : Worker K} {tokens : Int} {tier : String}
    {pkey : Nat} (hb : affinityBonusMs cfg s' id pkey = affinityBonusMs cfg s id pkey) :
    (decision cfg s' id w tokens tier pkey).rank = (decision cfg s id w tokens tier pkey).rank := by
  unfold affinityBonusMs at hb
  unfold decision RoutingDecision.rank engineKvCostMs engineQueueCostMs enginePrefixMs
  dsimp only
  rw [hb, engine_congr he]

omit [FloorRing K] in
theorem rank_score (he : s'.engineSnap = s.engineSnap) {id : String} {w : Worker K} {tokens : Int} {tier : String}
    {pkey : Nat} (hb : (score cfg s id w tokens tier pkey).isSome →
      affinityBonusMs cfg s' id pkey = affinityBonusMs cfg s id pkey) :
    (score cfg s' id w tokens tier pkey).map (·.rank) = (score cfg s id w tokens tier pkey).map (·.rank) := by
  have hblocked : hardBlocked cfg s' id w.nlms tokens tier = hardBlocked cfg s id w.nlms tokens tier := by
    unfold hardBlocked
    rw [engine_congr he]
  unfold score at hb ⊢
  rw [hblocked]
  split
  · rfl
  · rename_i hfree
    split
    · rfl
    · rename_i hest
      rw [if_neg hfree, if_neg hest] at hb
      exact congrArg some (rank_decision he (hb rfl))

/-- The bonus of every candidate is the same on both sides. -/
def SameBonus (cfg : Cfg K) (s s' : State K) (a : PickArgs) : Prop :=
  ∀ d ∈ ranking cfg s a, affinityBonusMs cfg s' d.workerId (cfg.prefixHash a.prompt) =
    affinityBonusMs cfg s d.workerId (cfg.prefixHash a.prompt)

omit [FloorRing K] in
theorem map_rank_ranking (h : RoutesAlike renewed s s') {a : PickArgs} (hb : SameBonus cfg s s' a) :
    (ranking cfg s' a).map (·.rank) = (ranking cfg s a).map (·.rank) := by
  unfold ranking candidates
  rw [List.map_filterMap, List.map_filterMap, h.eligible, h.predictors]
  refine List.filterMap_congr fun id hid => ?_
  cases hw : Dict.get? s.predictors id with
  | none => rfl
  | some w =>
    apply rank_score h.engineSnap
    intro hsome
    obtain ⟨d, hd⟩ := Option.isSome_iff_exists.1 hsome
    have hrated : Rated cfg s a id d := ⟨hid, w, hw, hd⟩
    exact hrated.workerId ▸ hb d hrated.mem

omit [FloorRing K] in
/-- Entries not lost give every candidate its bonus on both sides. -/
theorem sameBonus_of_nothingLost {t : Fork K} (h : RoutesAlike t.renewed t.kept t.reset) {a : PickArgs}
    (hcost : cfg.strategy.byCost = true) (hok : NothingLost cfg t a) : SameBonus cfg t.kept t.reset a := by
  intro d hd
  unfold affinityBonusMs
  by_cases hzero : cfg.cacheBonusMs = 0
  · rw [hzero, ite_self, ite_self]
  · refine congrArg (fun hit : Bool => if hit then cfg.cacheBonusMs else 0) ?_
    by_cases hk : cfg.prefixHash a.prompt ∈ t.renewed
    · unfold affinityHit
      rw [h.cache.get?_renewed hk]
    · rw [hok hcost hzero hk d hd]
      unfold affinityHit
      rw [h.cache.get?_other hk]
      exact Bool.and_false _

omit [FloorRing K] in
theorem rank_best (h : RoutesAlike renewed s s') {a : PickArgs} (hb : SameBonus cfg s s' a) :
    (best cfg s' a).map (·.rank) = (best cfg s a).map (·.rank) := by
  have hfirst : ∀ s : State K, firstMin Prod.snd ((ranking cfg s a).map (·.rank)) = (best cfg s a).map (·.rank) :=
    fun s => firstMin_map (·.rank) Prod.snd (ranking cfg s a)
  rw [← hfirst, ← hfirst, map_rank_ranking h hb]

/-- The gate answers from the worker and the cost of the best candidate, the costs of all and the observed latencies. -/
theorem answer_admitOrShed (hrecent : s'.recentE2e = s.recentE2e) {d d' : RoutingDecision K} (hd : d'.rank = d.rank)
    (pkey : Nat) (scores : List K) : (admitOrShed cfg s' pkey d' scores).1.map Prod.fst =
      (admitOrShed cfg s pkey d scores).1.map Prod.fst := by
  have hworker : d'.workerId = d.workerId := congrArg Prod.fst hd
  have htotal : d'.totalMs = d.totalMs := congrArg Prod.snd hd
  unfold admitOrShed
  dsimp only
  rw [hrecent, htotal]
  split
  · rfl
  · exact congrArg Except.ok hworker

theorem answer_byCost (h : RoutesAlike renewed s s') (hcost : cfg.strategy.byCost = true) {a : PickArgs}
    (hb : SameBonus cfg s s' a) (hne : eligible s a.allowedBackends ≠ []) : answer cfg s' a = answer cfg s a := by
  have hbest := rank_best h hb
  have hscores : (ranking cfg s' a).map (·.totalMs) = (ranking cfg s a).map (·.totalMs) := by
    have hsnd := congrArg (List.map Prod.snd) (map_rank_ranking h hb)
    rwa [List.map_map, List.map_map] at hsnd
  unfold answer
  cases hd : best cfg s a with
  | none =>
    rw [hd, Option.map_none, Option.map_eq_none_iff] at hbest
    rw [pick_infeasible hcost hd hne, pick_infeasible hcost hbest (h.eligible _ ▸ hne)]
    rfl
  | some d =>
    rw [hd, Option.map_some, Option.map_eq_some_iff] at hbest
    obtain ⟨d', hd', hrank⟩ := hbest
    rw [pick_of_best hcost hd, pick_of_best hcost hd', hscores]
    exact answer_admitOrShed h.recentE2e hrank _ _

/-- The strategies without a cost model answer from the workers and the round-robin index. -/
theorem answer_plain (h : RoutesAlike renewed s s') (hplain : cfg.strategy.byCost = false) (a : PickArgs) :
    answer cfg s' a = answer cfg s a := by
  have hpending : pending s' = pending s := by
    funext w
    unfold pending
    rw [h.predictors]
  have hewma : ewmaSamples s' = ewmaSamples s ∧ ewmaDecision cfg s' = ewmaDecision cfg s := by
    unfold ewmaSamples ewmaDecision
    rw [hpending, h.predictors]
    exact ⟨rfl, rfl⟩
  unfold answer pick
  dsimp only
  rw [h.eligible]
  split
  · rfl
  · cases hs : cfg.strategy with
    | roundRobin =>
      unfold pickRoundRobin
      dsimp only
      rw [h.rrIndex]
    | leastLoaded =>
      unfold pickLeastLoaded
      dsimp only
      rw [hpending]
    | ewma =>
      dsimp only
      unfold pickEwma
      rw [hpending, hewma.1, hewma.2]
      split
      · rfl
      · split
        · rfl
        · rfl
    | nlms => rw [hs] at hplain; cases hplain
    | rls => rw [hs] at hplain; cases hplain
    | static => rw [hs] at hplain; cases hplain

/-- A pick that meets no lost entry answers alike. -/
theorem sameAnswer_pick {t : Fork K} (h : RoutesAlike t.renewed t.kept t.reset) {a : PickArgs} (hok : NothingLost cfg t a) :
    answer cfg t.reset a = answer cfg t.kept a := by
  by_cases hne : eligible t.kept a.allowedBackends = []
  · unfold answer pick
    dsimp only
    rw [h.eligible, if_pos hne, if_pos hne]
    rfl
  · cases hcost : cfg.strategy.byCost with
    | true => exact answer_byCost h hcost (sameBonus_of_nothingLost h hcost hok) hne
    | false => exact answer_plain h hcost a

/-! ## What a pick leaves behind -/

theorem predictors_pick (cfg : Cfg K) (s : State K) (a : PickArgs) : (pick cfg s a).2.predictors =
    (answer cfg s a).casesOn (fun _ => s.predictors) fun w => (s.onNlms w .markAdmitted).predictors := by
  have h := pick_effect cfg s a
  unfold PickEffect at h
  unfold answer
  cases hr : (pick cfg s a).1 with
  | ok p =>
    rw [hr] at h
    exact h
  | error e =>
    rw [hr] at h
    exact h

theorem rrIndex_pick (cfg : Cfg K) (s : State K) (a : PickArgs) : (pick cfg s a).2.rrIndex =
    if cfg.strategy = .roundRobin ∧ eligible s a.allowedBackends ≠ [] then
      (s.rrIndex + 1) % (eligible s a.allowedBackends).length
    else s.rrIndex := by
  by_cases hne : eligible s a.allowedBackends = []
  · rw [if_neg fun h => h.2 hne]
    unfold pick
    dsimp only
    rw [if_pos hne]
    rfl
  · have hcost : ∀ (prompt : String) (tokens : Int) (tier : String),
        (pickCost cfg s (eligible s a.allowedBackends) prompt tokens tier).2.rrIndex = s.rrIndex := by
      intro prompt tokens tier
      unfold pickCost
      dsimp only
      split
      · unfold rejectInfeasible
        split <;> rfl
      · unfold admitOrShed
        dsimp only
        split <;> rfl
    unfold pick
    dsimp only
    rw [if_neg hne]
    cases hs : cfg.strategy with
    | roundRobin => rw [if_pos ⟨rfl, hne⟩]; rfl
    | leastLoaded => rw [if_neg fun h => by cases h.1]; rfl
    | ewma =>
      rw [if_neg fun h => by cases h.1]
      dsimp only
      unfold pickEwma
      split
      · rfl
      · split <;> rfl
    | nlms => rw [if_neg fun h => by cases h.1]; exact hcost ..
    | rls => rw [if_neg fun h => by cases h.1]; exact hcost ..
    | static => rw [if_neg fun h => by cases h.1]; exact hcost ..

/-- An admission by cost touches the affinity map, and nothing else does. -/
theorem prefixCache_pick (cfg : Cfg K) (s : State K) (a : PickArgs) : (pick cfg s a).2.prefixCache =
    (answer cfg s a).casesOn (fun _ => s.prefixCache) fun w =>
      if cfg.strategy.byCost then Lru.touch cfg.affinityMax s.prefixCache (cfg.prefixHash a.prompt) w else s.prefixCache := by
  unfold answer
  have hc := pick_cases cfg s a
  generalize pick cfg s a = r at hc ⊢
  cases hc with
  | nobody message => rfl
  | shed best scores hcost hreject => rfl
  | byCost d scores hcost hmem hhit hpass => exact (if_pos hcost).symm
  | direct d i last hplain hmem => exact (if_neg (by rw [hplain]; exact Bool.false_ne_true)).symm

theorem RoutesAlike.pick {t : Fork K} (h : RoutesAlike t.renewed t.kept t.reset) {a : PickArgs} (hok : NothingLost cfg t a) :
    RoutesAlike (renew cfg t.renewed t.kept a) (pick cfg t.kept a).2 (pick cfg t.reset a).2 := by
  have hsame := sameAnswer_pick h hok
  constructor
  · rw [predictors_pick, predictors_pick, hsame, h.predictors]
    cases answer cfg t.kept a with
    | error e => rfl
    | ok w =>
      show (State.onNlms t.reset w _).predictors = (State.onNlms t.kept w _).predictors
      unfold State.onNlms
      rw [h.predictors]
  · rw [pick_engineSnap, pick_engineSnap, h.engineSnap]
  · rw [rrIndex_pick, rrIndex_pick, h.eligible, h.rrIndex]
  · rw [(frame_pick cfg t.reset a).recentE2e, (frame_pick cfg t.kept a).recentE2e, h.recentE2e]
  · rw [prefixCache_pick, prefixCache_pick, hsame]
    unfold renew
    cases answer cfg t.kept a with
    | error e =>
      rw [if_neg fun h => Bool.false_ne_true h.2]
      exact h.cache
    | ok w =>
      cases hcost : cfg.strategy.byCost with
      | false =>
        rw [if_neg fun h => Bool.false_ne_true h.1]
        exact h.cache
      | true =>
        rw [if_pos ⟨rfl, rfl⟩]
        exact h.cache.touch _ _ _

omit [FloorRing K] in
theorem RoutesAlike.feedback (h : RoutesAlike renewed s s') (w : String) (e2eMs : K) (tokens : Int) (success : Bool) :
    RoutesAlike renewed (feedback cfg s w e2eMs tokens success) (feedback cfg s' w e2eMs tokens success) := by
  have hdepth : admittedDepth s' w = admittedDepth s w := by
    unfold admittedDepth
    rw [h.predictors]
  constructor
  · unfold Scheduler.feedback
    rw [hdepth]
    cases success with
    | false =>
      simp only [Bool.false_eq_true, if_false, failed, State.onNlms]
      rw [h.predictors]
    | true =>
      simp only [if_true, completed, State.onNlms]
      rw [h.predictors]
  · cases success <;> exact h.engineSnap
  · cases success <;> exact h.rrIndex
  · rw [feedback_recentE2e, feedback_recentE2e, h.recentE2e]
  · cases success <;> exact h.cache

omit [Field K] [LinearOrder K] [FloorRing K] in
theorem RoutesAlike.release (h : RoutesAlike renewed s s') (w : String) : RoutesAlike renewed (release s w) (release s' w) := by
  refine ⟨?_, h.engineSnap, h.rrIndex, h.recentE2e, h.cache⟩
  unfold Scheduler.release State.onNlms
  rw [h.predictors]

/-! ## Runs -/

/-- A request or a close, and the pick of a request meets no lost entry. -/
def Unaffected (cfg : Cfg K) (t : Fork K) (m : Move K) : Prop :=
  m.Request ∧ ∀ a, m = .pick a → NothingLost cfg t a

theorem RoutesAlike.exec {t : Fork K} (h : RoutesAlike t.renewed t.kept t.reset) {m : Move K} (hok : Unaffected cfg t m) :
    RoutesAlike (Fork.exec cfg m t).renewed (Fork.exec cfg m t).kept (Fork.exec cfg m t).reset := by
  cases m with
  | pick a => exact h.pick (hok.2 a rfl)
  | feedback u e2eMs tokens success => exact h.feedback u.worker e2eMs tokens success
  | release u => exact h.release u.worker
  | _ => exact absurd hok.1 id

/-- From any state, every request of a run of requests and closes in which no pick meets an affinity entry that the
reset dropped is answered as without the reset. -/
theorem reset_unnoticed {s : State K} {ms : List (Move K)}
    (hok : Trace.Allowed (Fork.exec cfg) (Unaffected cfg) (.start s) ms) :
    Trace.Allowed (Fork.exec cfg) (SameAnswer cfg) (.start s) ms := by
  have halike := Trace.always_of_invariant (P := fun t : Fork K => RoutesAlike t.renewed t.kept t.reset)
    (fun t m h hm => h.exec hm) (routesAlike_resetStats s) hok
  refine halike.allowed (fun t m h hm a ha => ?_) hok
  exact (sameAnswer_pick h (hm.2 a ha)).symm

/-- Two alike workers, `gpu0` just admitted for the prompt. -/
def warm : State ℚ :=
  (pick defaultCfg (fleet defaultCfg [oneWorker, { oneWorker with id := "gpu1" }]).sched { prompt := "a" }).2

/-- A request for `gpu1` alone meets no lost entry, and renews the key for the next one. -/
theorem reset_unnoticed_gpu1 : Trace.Allowed (Fork.exec defaultCfg) (SameAnswer defaultCfg) (.start warm)
    [.pick { prompt := "a", allowedBackends := some ["gpu1"] }, .pick { prompt := "a" }, .feedback ⟨0, "gpu1", 1, 1⟩ 300 1 true] := by
  apply reset_unnoticed
  refine ⟨⟨trivial, ?_⟩, ⟨trivial, ?_⟩, ⟨trivial, ?_⟩, trivial⟩
  · rintro a ⟨⟩ - - -
    decide +kernel
  · rintro a ⟨⟩ - - hk
    exact absurd (by decide +kernel) hk
  · rintro a ⟨⟩

/-- The session moves off its worker. -/
theorem reset_moves_session : ¬ Trace.Allowed (Fork.exec defaultCfg) (SameAnswer defaultCfg) (.start warm)
    [.pick { prompt := "a" }] := by
  intro h
  have hsame := h.1 { prompt := "a" } rfl
  revert hsame
  decide +kernel

end Dio.Scheduler
