/-
The robust guard of the learner (`scheduler.py`, `DualTimescaleNLMS.update`) acts on contended samples
only. While every admitted request is closed before the next pick no sample is contended, and a
scheduler with the guard behaves as one without.
-/
import DioServe.Scheduler.Admission

namespace Dio.Scheduler

open Data Effect

variable {K : Type}

/-! ## Guarded or not -/

/-- The learner with the guard on or off, nothing clipped so far. -/
def DualTimescaleNlms.guard (b : Bool) (m : DualTimescaleNlms K) : DualTimescaleNlms K :=
  { m with robust := b, clippedUpdates := 0, contendedUpdates := 0 }

def Worker.guard (b : Bool) (w : Worker K) : Worker K := { w with nlms := w.nlms.guard b }

def State.guard (b : Bool) (s : State K) : State K := { s with predictors := Dict.mapVals (Worker.guard b) s.predictors }

def Cfg.guard (b : Bool) (cfg : Cfg K) : Cfg K := { cfg with learnerRobust := b }

def Ledger.guard (b : Bool) (l : Ledger K) : Ledger K := ⟨l.sched.guard b, l.desk⟩

variable {b : Bool}

theorem get?_guard (s : State K) (w : String) :
    Dict.get? (s.guard b).predictors w = (Dict.get? s.predictors w).map (Worker.guard b) :=
  Dict.get?_mapVals (Worker.guard b) w s.predictors

theorem healthyIds_guard (s : State K) : (s.guard b).healthyIds = s.healthyIds := by
  unfold State.healthyIds State.guard Dict.mapVals
  dsimp only
  rw [List.filter_map, List.map_map]
  rfl

theorem eligible_guard (s : State K) (allowed : Option (List String)) : eligible (s.guard b) allowed = eligible s allowed := by
  unfold eligible
  rw [healthyIds_guard]

/-- An operation on one learner that the guard does not enter. -/
theorem onNlms_guard {f : DualTimescaleNlms K → DualTimescaleNlms K} (hf : ∀ m, f (m.guard b) = (f m).guard b)
    (s : State K) (w : String) : (s.guard b).onNlms w f = (s.onNlms w f).guard b := by
  unfold State.onNlms State.guard
  dsimp only
  congr 1
  refine Dict.modify_mapVals (fun x => ?_) w s.predictors
  unfold Worker.guard
  dsimp only
  rw [hf]

theorem free_guard (m : DualTimescaleNlms K) : (m.guard b).free = m.free.guard b := by
  unfold DualTimescaleNlms.free
  by_cases h : m.pending > 0
  · rw [if_pos h, if_pos (show (m.guard b).pending > 0 from h)]; rfl
  · rw [if_neg h, if_neg (show ¬ (m.guard b).pending > 0 from h)]

theorem markAdmitted_guard (m : DualTimescaleNlms K) : (m.guard b).markAdmitted = m.markAdmitted.guard b := by
  simp only [DualTimescaleNlms.markAdmitted, DualTimescaleNlms.guard]

theorem admittedDepth_guard (s : State K) (w : String) : admittedDepth (s.guard b) w = admittedDepth s w := by
  unfold admittedDepth
  rw [get?_guard]
  cases Dict.get? s.predictors w <;> rfl

section Update

variable [Field K] [LinearOrder K]

omit [Field K] [LinearOrder K] in
theorem trusted_of_le (m : DualTimescaleNlms K) {n : Nat} (hn : n ≤ 1) : m.trusted n = true := by
  simp [DualTimescaleNlms.trusted, hn]

/-- A sample taken at face value: no clip, no cap. -/
theorem learn_of_le (m : DualTimescaleNlms K) (e2eMs : K) (tokens : Int) {n : Nat} (hn : n ≤ 1) :
    m.learn e2eMs tokens n =
      if m.frozen then m else ({ m with clipStreak := 0 }).descend none (e2eMs - m.predict tokens) tokens := by
  unfold DualTimescaleNlms.learn DualTimescaleNlms.countClip DualTimescaleNlms.stepCap DualTimescaleNlms.updateErr
  simp only [trusted_of_le m hn, if_true]

/-- An uncontended sample teaches the guarded learner what it teaches the other. -/
theorem update_guard (m : DualTimescaleNlms K) (e2eMs : K) (tokens : Int) {n : Nat} (hn : n ≤ 1) :
    (m.guard b).update e2eMs tokens n = ((m.update e2eMs tokens n).1, (m.update e2eMs tokens n).2.guard b) := by
  have hlearn : ((m.guard b).tally e2eMs tokens).learn e2eMs tokens n =
      ((m.tally e2eMs tokens).learn e2eMs tokens n).guard b := by
    rw [learn_of_le _ e2eMs tokens hn, learn_of_le _ e2eMs tokens hn]
    by_cases hf : m.frozen = true
    · rw [if_pos (show ((m.guard b).tally e2eMs tokens).frozen = true from hf),
        if_pos (show (m.tally e2eMs tokens).frozen = true from hf)]
      rfl
    · rw [if_neg (show ¬ ((m.guard b).tally e2eMs tokens).frozen = true from hf),
        if_neg (show ¬ (m.tally e2eMs tokens).frozen = true from hf)]
      rfl
  unfold DualTimescaleNlms.update
  dsimp only
  rw [hlearn]
  rfl

theorem learn_guard (w : Worker K) (e2eMs : K) (tokens : Int) {n : Nat} (hn : n ≤ 1) :
    (w.guard b).learn e2eMs tokens n = (w.learn e2eMs tokens n).guard b := by
  unfold Worker.learn Worker.guard
  dsimp only
  rw [update_guard w.nlms e2eMs tokens hn]

end Update

/-! ## Operations -/

variable [Field K] [LinearOrder K] {cfg : Cfg K}

omit [LinearOrder K] in
theorem register_guard (s : State K) (r : Registration K) :
    register (cfg.guard b) (s.guard b) r.id r.tier r.totalVramMb r.freeVramMb =
      (register cfg s r.id r.tier r.totalVramMb r.freeVramMb).guard b := by
  unfold register State.guard
  dsimp only
  rw [← Dict.set_mapVals]
  rfl

theorem setEngineMetrics_guard (s : State K) (w : String) (snap : EngineSnapshot K) :
    setEngineMetrics (s.guard b) w snap = (setEngineMetrics s w snap).guard b := by
  unfold setEngineMetrics
  dsimp only
  split
  · refine onNlms_guard (fun m => ?_) { s with engineSnap := Dict.set s.engineSnap w snap } w
    unfold DualTimescaleNlms.guard
    dsimp only
    split <;> rfl
  · rfl

omit [Field K] [LinearOrder K] in
theorem setVram_guard (s : State K) (w : String) (free : K) : setVram (s.guard b) w free = (setVram s w free).guard b := by
  unfold setVram
  exact onNlms_guard (by intro m; rfl) s w

omit [Field K] [LinearOrder K] in
theorem setHealthy_guard (s : State K) (w : String) (healthy : Bool) :
    setHealthy (s.guard b) w healthy = (setHealthy s w healthy).guard b := by
  have hon : (s.guard b).onNlms w (fun m => { m with healthy := healthy }) =
      (s.onNlms w fun m => { m with healthy := healthy }).guard b := onNlms_guard (by intro m; rfl) s w
  have hcontains : Dict.contains (s.guard b).predictors w = Dict.contains s.predictors w :=
    Dict.contains_mapVals (Worker.guard b) w s.predictors
  unfold setHealthy
  dsimp only
  rw [hon, hcontains]
  split <;> rfl

omit [Field K] [LinearOrder K] in
theorem noteFailure_guard (s : State K) (w : String) (n : Nat) :
    (noteFailure (s.guard b) w n).2 = (noteFailure s w n).2.guard b := by
  let counted : State K := { s with failStreak := Dict.set s.failStreak w ((Dict.get? s.failStreak w).getD 0 + 1) }
  have hon : (counted.guard b).onNlms w (fun m => { m with healthy := false }) =
      (counted.onNlms w fun m => { m with healthy := false }).guard b := onNlms_guard (by intro m; rfl) counted w
  have hstreak : (s.guard b).failStreak = s.failStreak := rfl
  unfold noteFailure
  dsimp only
  rw [hstreak]
  split
  · exact hon
  · rfl

/-- A completion at a depth of at most one. -/
theorem completed_guard (s : State K) (w : String) (e2eMs : K) (tokens : Int) {n : Nat} (hn : n ≤ 1) :
    completed (cfg.guard b) (s.guard b) w e2eMs tokens n = (completed cfg s w e2eMs tokens n).guard b := by
  have hpred : Dict.modify (s.guard b).predictors w (fun x => x.learn e2eMs tokens n) =
      Dict.mapVals (Worker.guard b) (Dict.modify s.predictors w fun x => x.learn e2eMs tokens n) :=
    Dict.modify_mapVals (fun x => learn_guard x e2eMs tokens hn) w s.predictors
  unfold completed
  rw [hpred, get?_guard]
  cases hx : Dict.get? s.predictors w with
  | none => rfl
  | some x =>
    have hsample : predSample (x.guard b) w e2eMs tokens n = predSample x w e2eMs tokens n := by
      unfold predSample Worker.guard
      dsimp only
      rw [update_guard x.nlms e2eMs tokens hn]
      rfl
    dsimp only [Option.map_some]
    rw [hsample]
    rfl

theorem feedback_guard (s : State K) (w : String) (e2eMs : K) (tokens : Int) {success : Bool}
    (hn : success = true → admittedDepth s w ≤ 1) :
    feedback (cfg.guard b) (s.guard b) w e2eMs tokens success = (feedback cfg s w e2eMs tokens success).guard b := by
  let read : State K := s.onNlms w fun m => { m with inflightLog := m.inflightLog.tail }
  let learned : State K := if success then completed cfg read w e2eMs tokens (admittedDepth s w) else failed read
  have hread : (s.guard b).onNlms w (fun m => { m with inflightLog := m.inflightLog.tail }) = read.guard b :=
    onNlms_guard (by intro m; rfl) s w
  have hlearned : (if success then completed (cfg.guard b) (read.guard b) w e2eMs tokens (admittedDepth s w)
      else failed (read.guard b)) = learned.guard b := by
    cases success with
    | false => rfl
    | true => exact completed_guard read w e2eMs tokens (hn rfl)
  unfold feedback
  dsimp only
  rw [admittedDepth_guard, hread, hlearned]
  exact onNlms_guard free_guard learned w

/-! ## Picks -/

/-- What a pick returns does not depend on the guard, and its state does as the state before. -/
def Guarded (b : Bool) (r r' : Picked K) : Prop := r' = (r.1, r.2.guard b)

omit [Field K] [LinearOrder K] in
theorem admitted_guard (s : State K) (d : RoutingDecision K) :
    admitted (cfg.guard b) (s.guard b) d = (admitted cfg s d).guard b := by
  have hon : (s.guard b).onNlms d.workerId .markAdmitted = (s.onNlms d.workerId .markAdmitted).guard b :=
    onNlms_guard markAdmitted_guard s d.workerId
  unfold admitted
  dsimp only
  rw [hon]
  rfl

omit [Field K] [LinearOrder K] in
theorem pending_guard (s : State K) : pending (s.guard b) = pending s := by
  funext w
  unfold pending
  rw [get?_guard, Option.map_map]
  rfl

theorem ewmaDecision_guard (s : State K) (w : String) (tokens : Int) :
    ewmaDecision (cfg.guard b) (s.guard b) w tokens = ewmaDecision cfg s w tokens := by
  unfold ewmaDecision
  rw [get?_guard, Option.map_map, pending_guard]
  rfl

omit [Field K] [LinearOrder K] in
theorem ewmaSamples_guard (s : State K) : ewmaSamples (s.guard b) = ewmaSamples s := by
  funext w
  unfold ewmaSamples
  rw [get?_guard, Option.map_map]
  rfl

theorem candidates_guard (s : State K) (ids : List String) (tokens : Int) (tier : String) (pkey : Nat) :
    candidates (cfg.guard b) (s.guard b) ids tokens tier pkey = candidates cfg s ids tokens tier pkey := by
  unfold candidates
  congr 1
  funext w
  rw [get?_guard]
  cases Dict.get? s.predictors w <;> rfl

omit [Field K] [LinearOrder K] in
theorem admittedByCost_guard (s : State K) (pkey : Nat) (d : RoutingDecision K) :
    admittedByCost (cfg.guard b) (s.guard b) pkey d = (admittedByCost cfg s pkey d).guard b := by
  have hremember : remember (cfg.guard b) (s.guard b) pkey d.workerId = (remember cfg s pkey d.workerId).guard b := rfl
  unfold admittedByCost
  dsimp only
  rw [hremember, admitted_guard]
  rfl

omit [Field K] [LinearOrder K] in
theorem admitEwma_guard (s : State K) (d : RoutingDecision K) :
    Guarded b (admitEwma cfg s d) (admitEwma (cfg.guard b) (s.guard b) d) := by
  unfold Guarded admitEwma
  rw [admitted_guard]
  rfl

section Pick

variable [FloorRing K]

theorem rejectNoWorker_guard (s : State K) (message : String) :
    Guarded b (rejectNoWorker cfg s message) (rejectNoWorker (cfg.guard b) (s.guard b) message) := rfl

omit [LinearOrder K] in
theorem pickRoundRobin_guard (s : State K) (ids : List String) (tokens : Int) :
    Guarded b (pickRoundRobin cfg s ids tokens) (pickRoundRobin (cfg.guard b) (s.guard b) ids tokens) := by
  let next : State K := { s with rrIndex := (s.rrIndex + 1) % ids.length }
  have hadmitted : ∀ d, admitted (cfg.guard b) (next.guard b) d = (admitted cfg next d).guard b := admitted_guard next
  exact congrArg (Prod.mk _) (hadmitted _)

theorem pickEwma_guard (s : State K) (ids : List String) (tokens : Int) :
    Guarded b (pickEwma cfg s ids tokens) (pickEwma (cfg.guard b) (s.guard b) ids tokens) := by
  have hdecision : (fun w => ewmaDecision (cfg.guard b) (s.guard b) w tokens) = fun w => ewmaDecision cfg s w tokens :=
    funext fun w => ewmaDecision_guard s w tokens
  unfold pickEwma
  rw [pending_guard, ewmaSamples_guard, hdecision]
  split
  · rw [ewmaDecision_guard]
    exact admitEwma_guard s _
  · split
    · exact admitEwma_guard s _
    · exact rejectNoWorker_guard s _

theorem admitOrShed_guard (s : State K) (pkey : Nat) (d : RoutingDecision K) (scores : List K) :
    Guarded b (admitOrShed cfg s pkey d scores) (admitOrShed (cfg.guard b) (s.guard b) pkey d scores) := by
  have hverdict : shouldRejectSlo (cfg.guard b) (s.guard b).recentE2e d.totalMs scores =
      shouldRejectSlo cfg s.recentE2e d.totalMs scores := rfl
  unfold admitOrShed
  dsimp only
  rw [hverdict]
  split
  · rfl
  · exact congrArg (Prod.mk _) (admittedByCost_guard (compared cfg s d.totalMs _) pkey d)

theorem pickCost_guard (s : State K) (ids : List String) (prompt : String) (tokens : Int) (tier : String) :
    Guarded b (pickCost cfg s ids prompt tokens tier) (pickCost (cfg.guard b) (s.guard b) ids prompt tokens tier) := by
  have hhash : (cfg.guard b).prefixHash = cfg.prefixHash := rfl
  unfold pickCost
  dsimp only
  rw [hhash, candidates_guard]
  split
  · unfold rejectInfeasible
    split
    · rfl
    · exact rejectNoWorker_guard s _
  · exact admitOrShed_guard s _ _ _

theorem pick_guard (s : State K) (a : PickArgs) : Guarded b (pick cfg s a) (pick (cfg.guard b) (s.guard b) a) := by
  have hstrategy : (cfg.guard b).strategy = cfg.strategy := rfl
  unfold pick
  dsimp only
  rw [eligible_guard, hstrategy]
  split
  · exact rejectNoWorker_guard s _
  · cases cfg.strategy with
    | roundRobin => exact pickRoundRobin_guard s _ _
    | leastLoaded =>
      unfold Guarded pickLeastLoaded
      rw [pending_guard]
      exact congrArg (Prod.mk _) (admitted_guard s _)
    | ewma => exact pickEwma_guard s _ _
    | nlms => exact pickCost_guard s _ _ _ _
    | rls => exact pickCost_guard s _ _ _ _
    | static => exact pickCost_guard s _ _ _ _

end Pick

/-! ## Two schedulers, one request at a time -/

variable [FloorRing K]

/-- A request is admitted only while none is in flight. -/
def Move.OneByOne (l : Ledger K) : Move K → Prop
  | .pick _ => l.desk.live = []
  | _ => True

instance Move.decidableOneByOne (l : Ledger K) : (m : Move K) → Decidable (m.OneByOne l)
  | .pick _ => inferInstanceAs (Decidable (l.desk.live = []))
  | .register _ | .unregister _ | .feedback _ _ _ _ | .release _ | .setHealthy _ _ | .setVram _ _ | .setEngineMetrics _ _
  | .noteFailure _ _ | .noteSuccess _ | .resetStats => .isTrue trivial

theorem Move.OneByOne.act {l : Ledger K} {m : Move K} (h : m.OneByOne l) : l.desk.OneByOne (m.act cfg l.sched) := by
  cases m with
  | pick a =>
    show l.desk.OneByOne (pickAct (Scheduler.pick cfg l.sched a).1)
    cases (Scheduler.pick cfg l.sched a).1 with
    | ok p => exact h
    | error e => exact trivial
  | _ => exact trivial

/-- A scheduler whose requests came one at a time. -/
structure Unhurried (l : Ledger K) : Prop where
  follows : l.Follows
  shallow : l.desk.Shallow

omit [Field K] [LinearOrder K] [FloorRing K] in
/-- Nothing deeper than one request is read off a log. -/
theorem Unhurried.admittedDepth_le {l : Ledger K} (h : Unhurried l) (w : String) : admittedDepth l.sched w ≤ 1 := by
  unfold admittedDepth
  cases hx : Dict.get? l.sched.predictors w with
  | none => exact Nat.le_refl 1
  | some x =>
    have hslot : l.desk.slot w = some x.nlms.slot := by rw [← h.follows, State.slot, hx]; rfl
    obtain ⟨hlog, -⟩ := h.shallow w _ hslot
    dsimp only
    cases hl : x.nlms.inflightLog with
    | nil => exact Nat.le_refl 1
    | cons k ks => exact hlog k (by rw [DualTimescaleNlms.slot, hl]; exact List.mem_cons_self ..)

/-- The guard commutes with every move of an unhurried scheduler. -/
theorem Unhurried.exec_guard {l : Ledger K} (h : Unhurried l) (m : Move K) :
    m.exec (cfg.guard b) (l.guard b) = (m.exec cfg l).guard b := by
  have hsched : m.onSched (cfg.guard b) (l.guard b).sched = (m.onSched cfg l.sched).guard b := by
    cases m with
    | register r => exact register_guard l.sched r
    | unregister w => exact congrArg (fun d => { l.sched with predictors := d }) (Dict.erase_mapVals _ w l.sched.predictors)
    | pick a => exact congrArg Prod.snd (pick_guard l.sched a)
    | feedback t e n ok => exact feedback_guard l.sched t.worker e n fun _ => h.admittedDepth_le t.worker
    | release t => exact onNlms_guard free_guard l.sched t.worker
    | setHealthy w ok => exact setHealthy_guard l.sched w ok
    | setVram w f => exact setVram_guard l.sched w f
    | setEngineMetrics w snap => exact setEngineMetrics_guard l.sched w snap
    | noteFailure w n => exact noteFailure_guard l.sched w n
    | noteSuccess w => rfl
    | resetStats => rfl
  have hact : m.act (cfg.guard b) (l.guard b).sched = m.act cfg l.sched := by
    cases m with
    | pick a =>
      show pickAct (pick (cfg.guard b) (l.sched.guard b) a).1 = pickAct (pick cfg l.sched a).1
      rw [pick_guard l.sched a]
    | _ => rfl
  unfold Move.exec
  rw [hsched, hact]
  rfl

theorem Unhurried.exec {l : Ledger K} (h : Unhurried l) {m : Move K} (hm : m.OneByOne l) : Unhurried (m.exec cfg l) :=
  ⟨h.follows.exec m, h.shallow.step hm.act⟩

/-- Two schedulers, the one with the guard and the one without. -/
structure Twins (K : Type) where
  robust : Ledger K
  plain : Ledger K

def Twins.init : Twins K := ⟨.init, .init⟩

/-- The same move on both. -/
def Move.onBoth (cfg : Cfg K) (m : Move K) (t : Twins K) : Twins K :=
  ⟨m.exec (cfg.guard true) t.robust, m.exec (cfg.guard false) t.plain⟩

/-- The two decide alike about every request and have learned the same, the robust one without a contended or
clipped sample. -/
structure Alike (cfg : Cfg K) (t : Twins K) : Prop where
  picks : ∀ a, (pick (cfg.guard true) t.robust.sched a).1 = (pick (cfg.guard false) t.plain.sched a).1
  learners : ∀ w, (Dict.get? t.robust.sched.predictors w).map (fun x => (x.nlms.fastSlope, x.nlms.slowSlope, x.nlms.intercept)) =
    (Dict.get? t.plain.sched.predictors w).map fun x => (x.nlms.fastSlope, x.nlms.slowSlope, x.nlms.intercept)
  unclipped : ∀ w x, Dict.get? t.robust.sched.predictors w = some x →
    x.nlms.clippedUpdates = 0 ∧ x.nlms.contendedUpdates = 0

/-- Both are one unhurried scheduler, with the guard and without. -/
def Twins.Guarded (t : Twins K) : Prop := ∃ l, Unhurried l ∧ t = ⟨l.guard true, l.guard false⟩

theorem Twins.Guarded.alike {t : Twins K} (h : t.Guarded) : Alike cfg t := by
  obtain ⟨l, -, rfl⟩ := h
  refine ⟨fun a => ?_, fun w => ?_, fun w x hx => ?_⟩
  · have hpick : ∀ b, (pick (cfg.guard b) (l.sched.guard b) a).1 = (pick cfg l.sched a).1 :=
      fun b => by rw [pick_guard l.sched a]
    exact (hpick true).trans (hpick false).symm
  · show (Dict.get? (l.sched.guard true).predictors w).map _ = (Dict.get? (l.sched.guard false).predictors w).map _
    rw [get?_guard, get?_guard, Option.map_map, Option.map_map]
    rfl
  · obtain ⟨y, -, rfl⟩ := Option.map_eq_some_iff.1 ((get?_guard l.sched w).symm.trans hx)
    exact ⟨rfl, rfl⟩

/-- While every admitted request is closed before the next pick, the guard is invisible. -/
theorem guard_invisible {ms : List (Move K)}
    (h : Trace.Allowed (Move.onBoth cfg) (fun t m => m.OneByOne t.robust) .init ms) :
    Trace.Always (Move.onBoth cfg) (Alike cfg) .init ms := by
  have hstep : ∀ (t : Twins K) (m : Move K), t.Guarded → m.OneByOne t.robust → (m.onBoth cfg t).Guarded := by
    rintro _ m ⟨l, hl, rfl⟩ hm
    have hm' : m.OneByOne l := by cases m <;> exact hm
    refine ⟨m.exec cfg l, hl.exec hm', ?_⟩
    unfold Move.onBoth
    rw [hl.exec_guard m, hl.exec_guard m]
  have hinit : (Twins.init : Twins K).Guarded := ⟨.init, ⟨.init, .init⟩, rfl⟩
  exact (Trace.always_of_invariant hstep hinit h).mono fun t ht => ht.alike

/-- Two requests on one worker, one after the other. -/
def oneByOne : List (Move ℚ) :=
  [.register oneWorker, .pick { prompt := "a" }, .feedback ⟨0, "gpu0", 1, 1⟩ 9000 7 true, .pick { prompt := "b" },
    .release ⟨1, "gpu0", 1, 1⟩]

theorem guard_invisible_two : Trace.Always (Move.onBoth defaultCfg) (Alike defaultCfg) .init oneByOne :=
  guard_invisible (by decide +kernel)

end Dio.Scheduler
