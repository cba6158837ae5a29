/-
The scheduler, worker by worker. What it keeps of one worker is a small machine of its own, moved by what happens to
that worker; the scheduler's runs are the runs of these machines side by side, and workers meet in `pick` only.
-/
import DioServe.Scheduler.Breaker

namespace Dio.Scheduler

open Data Effect

variable {K : Type}

/-! ## One worker -/

/-- What is kept of one worker: its record, its failures in a row, and its last telemetry. -/
@[ext]
structure View (K : Type) where
  worker : Option (Worker K)
  streak : Option Nat
  snap : Option (EngineSnapshot K)

def State.view (s : State K) (w : String) : View K :=
  ⟨Dict.get? s.predictors w, Dict.get? s.failStreak w, Dict.get? s.engineSnap w⟩

/-- What can happen to a worker. -/
inductive Happening (K : Type)
  | registered (tier : String) (totalVramMb : K) (freeVramMb : Option K)
  | unregistered
  | admitted
  | finished (e2eMs : K) (tokens : Int) (success : Bool)
  | released
  | health (healthy : Bool)
  | vram (freeMb : K)
  | scraped (snap : EngineSnapshot K)
  | failed (threshold : Nat)
  | succeeded
  | cleared

/-- Change the learner and slot record. -/
def Worker.onNlms (x : Worker K) (f : DualTimescaleNlms K → DualTimescaleNlms K) : Worker K := { x with nlms := f x.nlms }

section Exec

variable [Field K] [LinearOrder K] (cfg : Cfg K)

/-- A request of the worker is closed: the depth it was admitted at leaves the log, and its slot is freed. -/
def Worker.finish (x : Worker K) (e2eMs : K) (tokens : Int) (success : Bool) : Worker K :=
  let popped := x.onNlms fun m => { m with inflightLog := m.inflightLog.tail }
  (if success then popped.learn e2eMs tokens (x.nlms.inflightLog.headD 1) else popped).onNlms .free

/-- The free memory that a scrape suggests. -/
def DualTimescaleNlms.scraped (m : DualTimescaleNlms K) (snap : EngineSnapshot K) : DualTimescaleNlms K :=
  if m.totalVramMb > 0 ∧ snap.kvCacheUsage ≥ 0 then
    { m with freeVramMb := max 0 (m.totalVramMb * (1 - snap.kvCacheUsage)) }
  else m

/-- The machine of one worker. -/
def Happening.exec (h : Happening K) (v : View K) : View K :=
  match h with
  | .registered tier total free => { v with worker := some (newWorker cfg tier total free) }
  | .unregistered => { v with worker := none }
  | .admitted => { v with worker := v.worker.map (·.onNlms .markAdmitted) }
  | .finished e2eMs tokens success =>
    { v with
      worker := v.worker.map (·.finish e2eMs tokens success)
      streak := if success then some 0 else v.streak }
  | .released => { v with worker := v.worker.map (·.onNlms .free) }
  | .health healthy =>
    { v with
      worker := v.worker.map (·.onNlms fun m => { m with healthy := healthy })
      streak := if v.worker.isSome && healthy then some 0 else v.streak }
  | .vram freeMb => { v with worker := v.worker.map (·.onNlms fun m => { m with freeVramMb := freeMb }) }
  | .scraped snap =>
    { v with
      worker := if snap.ok then v.worker.map (·.onNlms fun m => m.scraped snap) else v.worker
      snap := some snap }
  | .failed threshold =>
    { v with
      worker := if v.streak.getD 0 + 1 ≥ threshold then v.worker.map (·.onNlms fun m => { m with healthy := false })
        else v.worker
      streak := some (v.streak.getD 0 + 1) }
  | .succeeded => { v with streak := some 0 }
  | .cleared => { v with streak := none }

variable [FloorRing K]

/-- `h`, when it is the worker that it happens to. -/
def happensTo (v w : String) (h : Happening K) : Option (Happening K) := if v = w then some h else none

/-- What a move is to the worker `w`. -/
def Move.happening (w : String) (s : State K) : Move K → Option (Happening K)
  | .register r => happensTo r.id w (.registered r.tier r.totalVramMb r.freeVramMb)
  | .unregister v => happensTo v w .unregistered
  | .pick a =>
    match (Scheduler.pick cfg s a).1 with
    | .ok (v, _) => happensTo v w .admitted
    | .error _ => none
  | .feedback t e2eMs tokens success => happensTo t.worker w (.finished e2eMs tokens success)
  | .release t => happensTo t.worker w .released
  | .setHealthy v healthy => happensTo v w (.health healthy)
  | .setVram v freeMb => happensTo v w (.vram freeMb)
  | .setEngineMetrics v snap => happensTo v w (.scraped snap)
  | .noteFailure v threshold => happensTo v w (.failed threshold)
  | .noteSuccess v => happensTo v w .succeeded
  -- the one move that reaches every worker
  | .resetStats => some .cleared

/-- What happens to the worker `w` in a run. -/
def happenings (w : String) (s : State K) (ms : List (Move K)) : List (Happening K) :=
  Trace.shadows (fun m s => m.onSched cfg s) (Move.happening cfg w) s ms

end Exec

/-! ## One move -/

section Step

theorem view_onNlms (s : State K) (v w : String) (f : DualTimescaleNlms K → DualTimescaleNlms K) :
    (s.onNlms v f).view w = if v = w then { s.view w with worker := (s.view w).worker.map (·.onNlms f) } else s.view w := by
  ext1
  · show Dict.get? (s.onNlms v f).predictors w = _
    rw [State.get?_onNlms]
    by_cases h : v = w
    · rw [if_pos h.symm, if_pos h]; rfl
    · rw [if_neg (Ne.symm h), if_neg h]; rfl
  · split <;> rfl
  · split <;> rfl

/-- A changed streak is seen in one view. -/
theorem view_setStreak (s : State K) (v w : String) (n : Nat) :
    ({ s with failStreak := Dict.set s.failStreak v n } : State K).view w =
      if v = w then { s.view w with streak := some n } else s.view w := by
  ext1
  · split <;> rfl
  · show Dict.get? (Dict.set s.failStreak v n) w = _
    rw [Dict.get?_set]
    split <;> rfl
  · split <;> rfl

variable [Field K] [LinearOrder K] {cfg : Cfg K}

theorem view_setHealthy (s : State K) (v w : String) (healthy : Bool) : (setHealthy s v healthy).view w =
    if v = w then (Happening.health healthy).exec cfg (s.view w) else s.view w := by
  have hp : (setHealthy s v healthy).predictors = (s.onNlms v fun m => { m with healthy := healthy }).predictors :=
    predictors_setHealthy s v healthy
  have hw := view_onNlms s v w fun m => { m with healthy := healthy }
  ext1
  · show Dict.get? (setHealthy s v healthy).predictors w = _
    rw [hp]
    refine (congrArg View.worker hw).trans ?_
    split <;> rfl
  · show Dict.get? (setHealthy s v healthy).failStreak w = _
    rw [setHealthy_failStreak]
    by_cases h : v = w
    · subst h
      rw [if_pos rfl]
      show Dict.get? (if (Dict.get? s.predictors v).isSome && healthy then _ else _) v = _
      split <;> simp [State.view, Happening.exec, *]
    · rw [if_neg h]
      split
      · exact Dict.get?_set_ne h _ _
      · rfl
  · have hs : (setHealthy s v healthy).engineSnap = s.engineSnap := by
      unfold setHealthy
      dsimp only
      split <;> rfl
    show Dict.get? (setHealthy s v healthy).engineSnap w = _
    rw [hs]
    split <;> rfl

theorem view_noteFailure (s : State K) (v w : String) (threshold : Nat) : (noteFailure s v threshold).2.view w =
    if v = w then (Happening.failed threshold).exec cfg (s.view w) else s.view w := by
  have hset := view_setStreak s v w ((Dict.get? s.failStreak v).getD 0 + 1)
  unfold noteFailure
  dsimp only
  by_cases h : v = w
  · subst h
    have hstreak : (s.view v).streak = Dict.get? s.failStreak v := rfl
    rw [if_pos rfl] at hset ⊢
    unfold Happening.exec
    dsimp only
    rw [hstreak]
    split
    · rw [view_onNlms, if_pos rfl, hset]
    · rw [hset]
  · rw [if_neg h] at hset ⊢
    split
    · rw [view_onNlms, if_neg h, hset]
    · exact hset

theorem view_register (s : State K) (r : Registration K) (w : String) :
    (register cfg s r.id r.tier r.totalVramMb r.freeVramMb).view w =
      if r.id = w then (Happening.registered r.tier r.totalVramMb r.freeVramMb).exec cfg (s.view w) else s.view w := by
  ext1
  · show Dict.get? (Dict.set s.predictors r.id _) w = _
    rw [Dict.get?_set]
    split <;> rfl
  · split <;> rfl
  · split <;> rfl

theorem view_unregister (s : State K) (v w : String) :
    (unregister s v).view w = if v = w then Happening.unregistered.exec cfg (s.view w) else s.view w := by
  ext1
  · show Dict.get? (Dict.erase s.predictors v) w = _
    by_cases h : v = w
    · subst h
      rw [if_pos rfl]
      exact Dict.get?_erase_self v _
    · rw [if_neg h]
      exact Dict.get?_erase_ne h _
  · split <;> rfl
  · split <;> rfl

theorem view_setEngineMetrics (s : State K) (v w : String) (snap : EngineSnapshot K) :
    (setEngineMetrics s v snap).view w = if v = w then (Happening.scraped snap).exec cfg (s.view w) else s.view w := by
  have hstored : ({ s with engineSnap := Dict.set s.engineSnap v snap } : State K).view w =
      if v = w then { s.view w with snap := some snap } else s.view w := by
    ext1
    · split <;> rfl
    · split <;> rfl
    · show Dict.get? (Dict.set s.engineSnap v snap) w = _
      rw [Dict.get?_set]
      split <;> rfl
  unfold setEngineMetrics Happening.exec
  dsimp only
  by_cases hok : snap.ok = true
  · rw [if_pos hok, if_pos hok]
    refine (view_onNlms _ v w _).trans ?_
    rw [hstored]
    by_cases h : v = w
    · rw [if_pos h, if_pos h, if_pos h]; rfl
    · rw [if_neg h, if_neg h, if_neg h]
  · rw [if_neg hok, if_neg hok]
    exact hstored

/-- What a success teaches is seen in one view. -/
theorem view_completed (s : State K) (v w : String) (e2eMs : K) (tokens : Int) (inflight : Nat) :
    (completed cfg s v e2eMs tokens inflight).view w = if v = w then { s.view w with
      worker := (s.view w).worker.map (·.learn e2eMs tokens inflight)
      streak := some 0 } else s.view w := by
  ext1
  · show Dict.get? (Dict.modify s.predictors v fun x => x.learn e2eMs tokens inflight) w = _
    rw [Dict.get?_modify]
    by_cases h : v = w
    · rw [if_pos h.symm, if_pos h]; rfl
    · rw [if_neg (Ne.symm h), if_neg h]; rfl
  · show Dict.get? (Dict.set s.failStreak v 0) w = _
    rw [Dict.get?_set]
    split <;> rfl
  · split <;> rfl

theorem view_feedback (s : State K) (v w : String) (e2eMs : K) (tokens : Int) (success : Bool) :
    (feedback cfg s v e2eMs tokens success).view w =
      if v = w then (Happening.finished e2eMs tokens success).exec cfg (s.view w) else s.view w := by
  have hpopped := view_onNlms s v w fun m => { m with inflightLog := m.inflightLog.tail }
  have hfailed : ∀ s' : State K, (failed s').view w = s'.view w := fun _ => rfl
  unfold feedback Happening.exec
  dsimp only
  rw [view_onNlms]
  by_cases h : v = w
  · subst h
    rw [if_pos rfl] at hpopped ⊢
    rw [if_pos rfl]
    cases hx : Dict.get? s.predictors v with
    | none =>
      -- a worker that is not registered learns nothing
      have hnone : (s.view v).worker = none := hx
      rw [hnone] at hpopped ⊢
      cases success with
      | true => rw [if_pos rfl, view_completed, if_pos rfl, hpopped]; rfl
      | false => rw [if_neg Bool.false_ne_true, hfailed, hpopped]; rfl
    | some x =>
      have hsome : (s.view v).worker = some x := hx
      have hdepth : admittedDepth s v = x.nlms.inflightLog.headD 1 := by rw [admittedDepth, hx]
      rw [hsome] at hpopped ⊢
      rw [hdepth]
      cases success with
      | true => rw [if_pos rfl, view_completed, if_pos rfl, hpopped]; rfl
      | false => rw [if_neg Bool.false_ne_true, hfailed, hpopped]; rfl
  · rw [if_neg h] at hpopped ⊢
    rw [if_neg h]
    cases success with
    | true => rw [if_pos rfl, view_completed, if_neg h, hpopped]
    | false => exact hpopped

variable [FloorRing K]

theorem view_pick (s : State K) (a : PickArgs) (w : String) : (pick cfg s a).2.view w =
    match (pick cfg s a).1 with
    | .ok (v, _) => if v = w then Happening.admitted.exec cfg (s.view w) else s.view w
    | .error _ => s.view w := by
  have heffect := pick_effect cfg s a
  have hview : ∀ {s' : State K}, (pick cfg s a).2.predictors = s'.predictors → s'.failStreak = s.failStreak →
      s'.engineSnap = s.engineSnap → (pick cfg s a).2.view w = s'.view w := by
    intro s' hp hf hs
    simp only [State.view, hp, hf, hs, pick_failStreak, pick_engineSnap]
  unfold PickEffect at heffect
  cases hr : (pick cfg s a).1 with
  | error e =>
    rw [hr] at heffect
    exact hview heffect rfl rfl
  | ok r =>
    rw [hr] at heffect
    exact (hview heffect rfl rfl).trans (view_onNlms s r.1 w .markAdmitted)

/-- A move changes the view of a worker as what it is to the worker says, and not at all when it is nothing to it. -/
theorem view_onSched (cfg : Cfg K) (s : State K) (m : Move K) (w : String) : (m.onSched cfg s).view w =
    (m.happening cfg w s).elim (s.view w) fun h => h.exec cfg (s.view w) := by
  have hto : ∀ {v : String} {h : Happening K}, ((happensTo v w h).elim (s.view w) fun h => h.exec cfg (s.view w)) =
      if v = w then h.exec cfg (s.view w) else s.view w := by
    intro v h
    unfold happensTo
    split <;> rfl
  cases m with
  | register r => exact (view_register s r w).trans hto.symm
  | unregister v => exact (view_unregister s v w).trans hto.symm
  | pick a =>
    refine (view_pick s a w).trans ?_
    unfold Move.happening
    dsimp only
    split
    · exact hto.symm
    · rfl
  | feedback t e2eMs tokens success => exact (view_feedback s t.worker w e2eMs tokens success).trans hto.symm
  | release t =>
    have hfree : (release s t.worker).view w = if t.worker = w then Happening.released.exec cfg (s.view w) else s.view w :=
      view_onNlms s t.worker w .free
    exact hfree.trans hto.symm
  | setHealthy v healthy => exact (view_setHealthy s v w healthy).trans hto.symm
  | setVram v freeMb =>
    have hset : (setVram s v freeMb).view w = if v = w then (Happening.vram freeMb).exec cfg (s.view w) else s.view w :=
      view_onNlms s v w _
    exact hset.trans hto.symm
  | setEngineMetrics v snap => exact (view_setEngineMetrics s v w snap).trans hto.symm
  | noteFailure v threshold => exact (view_noteFailure s v w threshold).trans hto.symm
  | noteSuccess v =>
    have hset : (noteSuccess s v).view w = if v = w then Happening.succeeded.exec cfg (s.view w) else s.view w :=
      view_setStreak s v w 0
    exact hset.trans hto.symm
  | resetStats => rfl

end Step

/-! ## Runs -/

section Run

variable [Field K] [LinearOrder K] [FloorRing K] {cfg : Cfg K}

/-- The scheduler after some moves, for what is enabled is no matter here. -/
def played (cfg : Cfg K) (s : State K) (ms : List (Move K)) : State K := Trace.play (fun m s => m.onSched cfg s) s ms

/-- After a run, what is kept of a worker is where its own machine was led by what happened to it. -/
theorem view_played (s : State K) (ms : List (Move K)) (w : String) :
    (played cfg s ms).view w = Trace.play (Happening.exec cfg) (s.view w) (happenings cfg w s ms) :=
  Trace.view_play (fun s => s.view w) (Move.happening cfg w) (Happening.exec cfg) (fun s m => view_onSched cfg s m w) ms s

omit [FloorRing K] in
/-- The machine of a worker depends on the configuration through what a new worker is, and no further. -/
theorem exec_congr {cfg' : Cfg K} (hnew : ∀ tier total free, newWorker cfg tier total free = newWorker cfg' tier total free) :
    Happening.exec cfg = Happening.exec cfg' := by
  funext ev v
  cases ev with
  | registered tier total free =>
    unfold Happening.exec
    dsimp only
    rw [hnew]
  | _ => rfl

/-- Workers do not interfere: in two runs, of schedulers with any strategies, gates and cost coefficients, in which
the same happens to a worker, whatever else happens in them, the same is kept of it. -/
theorem workers_independent {cfg' : Cfg K}
    (hnew : ∀ tier total free, newWorker cfg tier total free = newWorker cfg' tier total free) {s s' : State K}
    {ms ms' : List (Move K)} {w : String} (hview : s.view w = s'.view w)
    (hsame : happenings cfg w s ms = happenings cfg' w s' ms') :
    (played cfg s ms).view w = (played cfg' s' ms').view w := by
  rw [view_played, view_played, hview, hsame, exec_congr hnew]

end Run

/-! ## The record of a worker -/

section Record

/-- `m'` differs from `m` in the slot, the health and the memory only. -/
structure Booked (m m' : DualTimescaleNlms K) : Prop where
  rest : m' = { m with
    inflightLog := m'.inflightLog
    pending := m'.pending
    freeVramMb := m'.freeVramMb
    healthy := m'.healthy }

theorem Booked.trans {m₁ m₂ m₃ : DualTimescaleNlms K} (h : Booked m₁ m₂) (h' : Booked m₂ m₃) : Booked m₁ m₃ := by
  constructor
  rw [h'.rest, h.rest]

theorem booked_free (m : DualTimescaleNlms K) : Booked m m.free := by
  unfold DualTimescaleNlms.free
  split <;> exact ⟨rfl⟩

/-- What neither registers the worker nor teaches it anything. -/
def Happening.quiet : Happening K → Bool
  | .registered .. => false
  | .finished _ _ true => false
  | _ => true

variable [Field K] [LinearOrder K] {cfg : Cfg K}

theorem booked_scraped (m : DualTimescaleNlms K) (snap : EngineSnapshot K) : Booked m (m.scraped snap) := by
  unfold DualTimescaleNlms.scraped
  split <;> exact ⟨rfl⟩

/-- A record is fresh, was there and has learned from a success, or was there and has kept its lessons. -/
theorem record_exec {h : Happening K} {v : View K} {x' : Worker K} (hx : x' ∈ (h.exec cfg v).worker) :
    (∃ tier total free, h = .registered tier total free ∧ x' = newWorker cfg tier total free) ∨
      ∃ x ∈ v.worker, (∃ e2eMs tokens, h = .finished e2eMs tokens true ∧ x' = x.finish e2eMs tokens true) ∨
        (h.quiet = true ∧ ∃ f, Booked x.nlms (f x.nlms) ∧ x' = x.onNlms f) := by
  have hmap : ∀ {f : DualTimescaleNlms K → DualTimescaleNlms K}, (∀ m, Booked m (f m)) →
      x' ∈ v.worker.map (·.onNlms f) → h.quiet = true → ∃ x ∈ v.worker,
        (∃ e2eMs tokens, h = .finished e2eMs tokens true ∧ x' = x.finish e2eMs tokens true) ∨
          (h.quiet = true ∧ ∃ f, Booked x.nlms (f x.nlms) ∧ x' = x.onNlms f) := by
    intro f hf hmem hquiet
    obtain ⟨x, hv, rfl⟩ := Option.map_eq_some_iff.1 hmem
    exact ⟨x, hv, .inr ⟨hquiet, f, hf x.nlms, rfl⟩⟩
  have hsame : x' ∈ v.worker → h.quiet = true → ∃ x ∈ v.worker,
      (∃ e2eMs tokens, h = .finished e2eMs tokens true ∧ x' = x.finish e2eMs tokens true) ∨
        (h.quiet = true ∧ ∃ f, Booked x.nlms (f x.nlms) ∧ x' = x.onNlms f) := fun hmem hquiet =>
    ⟨x', hmem, .inr ⟨hquiet, id, ⟨rfl⟩, rfl⟩⟩
  cases h with
  | registered tier total free =>
    cases hx
    exact .inl ⟨tier, total, free, rfl, rfl⟩
  | unregistered => cases hx
  | admitted =>
    refine .inr (hmap (fun m => ?_) hx rfl)
    constructor
    simp only [DualTimescaleNlms.markAdmitted]
  | finished e2eMs tokens success =>
    cases success with
    | true =>
      obtain ⟨x, hv, rfl⟩ := Option.map_eq_some_iff.1 hx
      exact .inr ⟨x, hv, .inl ⟨e2eMs, tokens, rfl, rfl⟩⟩
    | false =>
      refine .inr (hmap (f := fun m => DualTimescaleNlms.free { m with inflightLog := m.inflightLog.tail }) (fun m => ?_)
        hx rfl)
      exact Booked.trans ⟨rfl⟩ (booked_free _)
  | released => exact .inr (hmap booked_free hx rfl)
  | health healthy => exact .inr (hmap (fun m => ⟨rfl⟩) hx rfl)
  | vram freeMb => exact .inr (hmap (fun m => ⟨rfl⟩) hx rfl)
  | scraped snap =>
    unfold Happening.exec at hx
    dsimp only at hx
    split at hx
    · exact .inr (hmap (fun m => booked_scraped m snap) hx rfl)
    · exact .inr (hsame hx rfl)
  | failed threshold =>
    unfold Happening.exec at hx
    dsimp only at hx
    split at hx
    · exact .inr (hmap (fun m => ⟨rfl⟩) hx rfl)
    · exact .inr (hsame hx rfl)
  | succeeded => exact .inr (hsame hx rfl)
  | cleared => exact .inr (hsame hx rfl)

end Record

/-! ## Examples -/

/-- A request to one worker alone, and one to a fleet where another worker fails meanwhile. -/
def aloneRun : List (Move ℚ) :=
  [.register oneWorker, .pick ⟨"hi", "small", some 100, none⟩, .feedback ⟨0, "gpu0", 1, 0⟩ 700 100 true]

def fleetRun : List (Move ℚ) :=
  [.register { id := "gpu1", totalVramMb := 16000 }, .register oneWorker, .noteFailure "gpu1" 1,
    .pick ⟨"bye", "small", some 7, some ["gpu0"]⟩, .setHealthy "gpu1" true, .feedback ⟨0, "gpu0", 1, 0⟩ 700 100 true]

theorem workers_independent_gpu0 :
    (played { defaultCfg with strategy := .leastLoaded } .init aloneRun).view "gpu0" =
      (played { defaultCfg with strategy := .roundRobin } .init fleetRun).view "gpu0" :=
  workers_independent (fun _ _ _ => rfl) rfl rfl

end Dio.Scheduler
