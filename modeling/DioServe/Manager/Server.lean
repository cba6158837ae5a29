/-
The Go manager serving (`DIO/cmd/manager/main.go`). An inference call picks a worker, dials it, and reports back what
became of it; calls, registrations and debug requests interleave between these steps in any way. A call that cannot
dial its worker reports nothing, and its slot is never given back.
-/
import DioServe.Effect.Desk
import DioServe.Effect.Trace
import DioServe.Manager.Pick
import Mathlib.Data.List.Nodup

namespace Dio.Manager

open Data Effect

variable {K : Type}

/-! ## Moves -/

/-- `pb.RegisterRequest`. -/
structure RegisterRequest where
  workerId : String
  address : String
  tier : String
  vramGb : Int
  freeVramMb : Int := 0

/-- What becomes of a call once its worker is picked. -/
inductive Outcome (K : Type)
  | undialled
  | predicted (latencyMs : K) (promptTokens : Int)
  | failed

inductive Move (K : Type)
  | register (r : RegisterRequest)
  | execute (order : List String) (req : InferenceRequest)
  | reply (t : Ticket String) (req : InferenceRequest) (o : Outcome K)
  | setVram (id : String) (freeMb : Int)
  | resetWorker (id : String)
  | resetStats

/-- The scheduler, the desk that knows its calls, and the calls that ended without a word. -/
structure Server (K : Type) where
  sched : Scheduler K
  desk : Desk String
  undialled : List (Ticket String)

/-- `RegisterWorker` prefers the free memory, in MB, to the total, in GB, and takes both for MB. -/
def RegisterRequest.vramMb (r : RegisterRequest) : Int := if r.freeVramMb > 0 then r.freeVramMb else r.vramGb

section Exec

variable [Field K] [LinearOrder K] [FloorRing K]

/-- `ExecuteInference` after the pick. -/
def Outcome.report (env : Env K) (s : Scheduler K) (id : String) (req : InferenceRequest) : Outcome K → Scheduler K
  | .undialled => s
  | .predicted latencyMs promptTokens =>
    s.feedbackLoop env id latencyMs (if promptTokens > 0 then promptTokens else req.data.length / 4)
  | .failed => s.feedbackLoop env id (-1) 0

def Move.onSched (env : Env K) (s : Scheduler K) : Move K → Scheduler K
  | .register r => s.registerWorker env r.workerId r.address r.tier r.vramMb
  | .execute order req => (s.pickBestWorker env order req).2
  | .reply t req o => o.report env s t.worker req
  | .setVram id freeMb => s.setWorkerVram id freeMb
  | .resetWorker id => s.resetWorkerState id
  | .resetStats => s.resetAdmissionStats

/-- What a pick means for the desk. -/
def pickAct (r : Except PickError String) : Desk.Act String :=
  match r with
  | .ok w => .enter w
  | .error _ => .skip

/-- What a move means for the desk. -/
def Move.act (env : Env K) (s : Scheduler K) : Move K → Desk.Act String
  | .register r => .register r.workerId
  | .execute order req => pickAct (s.pickBestWorker env order req).1
  | .reply _ _ .undialled => .skip
  | .reply t _ _ => .finish t
  | .setVram _ _ | .resetWorker _ | .resetStats => .skip

/-- The calls that end without a word. -/
def Move.lost : Move K → List (Ticket String)
  | .reply t _ .undialled => [t]
  | _ => []

def Move.exec (env : Env K) (m : Move K) (l : Server K) : Server K :=
  ⟨m.onSched env l.sched, l.desk.step 0 (m.act env l.sched), l.undialled ++ m.lost⟩

/-- A new manager. -/
def Server.init : Server K := ⟨.new, .init, []⟩

/-- A loop meets each worker once, and a call ends once. -/
def Move.Enabled (l : Server K) : Move K → Prop
  | .execute order _ => order.Perm (Dict.keys l.sched.workers)
  | .reply t _ _ => t ∈ l.desk.live ∧ t ∉ l.undialled
  | _ => True

/-- No worker is registered again. -/
def Move.Settled (l : Server K) : Move K → Prop
  | .register r => r.workerId ∉ Dict.keys l.sched.workers
  | _ => True

end Exec

/-! ## What a pick does -/

section Known

variable {s : Scheduler K} {order : List String}

theorem mem_healthyWorkerIds {w : String} (h : w ∈ s.healthyWorkerIds order) : ∃ e, s.workers.get? w = some e := by
  have hany := (List.mem_filter.1 h).2
  cases he : s.workers.get? w with
  | none => rw [he] at hany; cases hany
  | some e => exact ⟨e, rfl⟩

theorem known_getD {n : Nat} (hw : (s.healthyWorkerIds order).getD n "" ≠ "") :
    ∃ e, s.workers.get? ((s.healthyWorkerIds order).getD n "") = some e := by
  rw [List.getD_eq_getElem?_getD] at hw ⊢
  cases hn : (s.healthyWorkerIds order)[n]? with
  | none => rw [hn] at hw; exact absurd rfl hw
  | some v => exact mem_healthyWorkerIds (List.mem_of_getElem? hn)

/-- A loop that keeps the id of a worker keeps that of one it has met. -/
theorem known_foldl {β : Type} {f : String × β → String → Entry K → String × β}
    (hf : ∀ b id e, f b id e = b ∨ (f b id e).1 = id) : ∀ {order : List String} {b : String × β},
      (b.1 ≠ "" → ∃ e, s.workers.get? b.1 = some e) →
        (order.foldl (fun b id => (s.workers.get? id).elim b (f b id)) b).1 ≠ "" →
          ∃ e, s.workers.get? (order.foldl (fun b id => (s.workers.get? id).elim b (f b id)) b).1 = some e
  | [], _, h => h
  | id :: order, b, h => by
    rw [List.foldl_cons]
    refine known_foldl hf ?_
    cases he : s.workers.get? id with
    | none => exact h
    | some e =>
      rcases hf b id e with hb | hb
      · rw [Option.elim_some, hb]
        exact h
      · intro _
        rw [Option.elim_some, hb]
        exact ⟨e, he⟩

variable [Field K] [LinearOrder K]

theorem known_of_rate {env : Env K} {req : InferenceRequest} {useRls : Bool} {id : String} {r : K × RoutingDecision K}
    (h : s.rate env req useRls id = some r) : ∃ e, s.workers.get? id = some e := by
  unfold Scheduler.rate at h
  obtain ⟨e, he, -⟩ := Option.bind_eq_some_iff.1 h
  exact ⟨e, he⟩

/-- The worker that a strategy prefers is a known one, and preferring it changes no book. -/
theorem choose_known {env : Env K} {req : InferenceRequest} {c : Choice K} {s' : Scheduler K}
    (h : s.choose env order req = some (c, s')) :
    SameBooks s s' ∧ (c.bestId ≠ "" → ∃ e, s.workers.get? c.bestId = some e) := by
  have hcost : ∀ useRls, (s.pickPredictive env req useRls order).bestId ≠ "" →
      ∃ e, s.workers.get? (s.pickPredictive env req useRls order).bestId = some e := by
    intro useRls hne
    rcases (stands_pickPredictive env s req useRls order).chosen with ⟨hempty, -⟩ | ⟨d, -, hd, -⟩
    · exact absurd hempty hne
    · exact known_of_rate hd
  unfold Scheduler.choose at h
  cases hs : env.strategy with
  | roundRobin =>
    rw [hs] at h
    dsimp only at h
    split at h
    · cases h
    · cases h
      exact ⟨⟨rfl, rfl, rfl, rfl⟩, known_getD⟩
  | leastLoaded =>
    rw [hs] at h
    cases h
    refine ⟨⟨rfl, rfl, rfl, rfl⟩, known_foldl (fun b id e => ?_) fun h => absurd rfl h⟩
    split
    · exact .inr rfl
    · exact .inl rfl
  | latencyBased =>
    rw [hs] at h
    cases h
    refine ⟨⟨rfl, rfl, rfl, rfl⟩, known_foldl (fun b id e => ?_) fun h => absurd rfl h⟩
    dsimp only
    generalize (if e.nlms.averageLatency = 0 then (1 / 10 : K) else e.nlms.averageLatency) = lat
    split
    · exact .inr rfl
    · exact .inl rfl
  | session =>
    rw [hs] at h
    cases h
    exact ⟨⟨rfl, rfl, rfl, rfl⟩, known_getD⟩
  | rls | static | nlms | other _ =>
    rw [hs] at h
    cases h
    exact ⟨sameBooks_recordChoice s _, hcost _⟩

end Known

section Picked

/-- A pick admits the request to a known worker, which has one task more, or refuses it and leaves the workers alone. -/
inductive Picked (s : Scheduler K) : Except PickError String × Scheduler K → Prop
  | admitted (w : String) (e : Entry K) (s' : Scheduler K) (known : s.workers.get? w = some e)
      (workers : s'.workers = s.workers.modify w fun e => { e with worker := { e.worker with
        pendingTasks := e.worker.pendingTasks + 1 } })
      (completed : s'.admission.completedTotal = s.admission.completedTotal ∧
        s'.admission.completedUnderSlo = s.admission.completedUnderSlo ∧
        s'.admission.completedOverSlo = s.admission.completedOverSlo)
      (predHistory : s'.predHistory = s.predHistory) : Picked s (.ok w, s')
  | refused (err : PickError) (s' : Scheduler K) (workers : s'.workers = s.workers)
      (completed : s'.admission.completedTotal = s.admission.completedTotal ∧
        s'.admission.completedUnderSlo = s.admission.completedUnderSlo ∧
        s'.admission.completedOverSlo = s.admission.completedOverSlo)
      (predHistory : s'.predHistory = s.predHistory) : Picked s (.error err, s')

variable [Field K] [LinearOrder K] [FloorRing K]

theorem pick_picked (env : Env K) (s : Scheduler K) (order : List String) (req : InferenceRequest) :
    Picked s (s.pickBestWorker env order req) := by
  unfold Scheduler.pickBestWorker
  cases hc : s.choose env order req with
  | none => exact .refused _ s rfl ⟨rfl, rfl, rfl⟩ rfl
  | some r =>
    obtain ⟨c, s'⟩ := r
    obtain ⟨hbooks, hknown⟩ := choose_known hc
    have hrefused : ∀ (err : PickError) (f : AdmissionStats → AdmissionStats),
        (∀ a, (f a).completedTotal = a.completedTotal ∧ (f a).completedUnderSlo = a.completedUnderSlo ∧
          (f a).completedOverSlo = a.completedOverSlo) → Picked s (.error err, s'.onAdmission f) := by
      intro err f hf
      have hcompleted := hf s'.admission
      rw [hbooks.admission] at hcompleted
      refine .refused err _ hbooks.workers ?_ hbooks.predHistory
      rw [← hbooks.admission] at hcompleted ⊢
      exact hcompleted
    show Picked s (s'.settle env c req)
    unfold Scheduler.settle
    split
    · split
      · split
        · exact hrefused _ _ fun a => ⟨rfl, rfl, rfl⟩
        · exact hrefused _ _ fun a => ⟨rfl, rfl, rfl⟩
      · exact hrefused _ _ fun a => ⟨rfl, rfl, rfl⟩
    · rename_i hne
      split
      · exact hrefused _ _ fun a => ⟨rfl, rfl, rfl⟩
      · obtain ⟨e, he⟩ := hknown hne
        rw [hbooks.workers, he, if_pos (Option.isSome_some)]
        refine .admitted c.bestId e _ he ?_ ?_ hbooks.predHistory
        · have hworkers : (s'.admitOn c.bestId req).workers = s'.workers.modify c.bestId fun e =>
              { e with worker := { e.worker with pendingTasks := e.worker.pendingTasks + 1 } } := rfl
          rw [hworkers, hbooks.workers]
        · show s'.admission.completedTotal = _ ∧ s'.admission.completedUnderSlo = _ ∧ s'.admission.completedOverSlo = _
          rw [hbooks.admission]
          exact ⟨rfl, rfl, rfl⟩

end Picked

/-! ## Slots -/

section Slots

/-- The pending tasks of the registered workers. -/
def Scheduler.pending (s : Scheduler K) (id : String) : Option Nat := (s.workers.get? id).map (·.worker.pendingTasks)

theorem pending_modify {s s' : Scheduler K} {id : String} {f : Entry K → Entry K} {g : Nat → Nat}
    (hs : s'.workers = s.workers.modify id f) (hf : ∀ e, (f e).worker.pendingTasks = g e.worker.pendingTasks) :
    s'.pending = Function.update s.pending id ((s.pending id).map g) := by
  funext v
  rw [Function.update_apply, Scheduler.pending, hs, Dict.get?_modify]
  split
  · rename_i h
    subst h
    rw [Scheduler.pending, Option.map_map, Option.map_map]
    exact congrArg (Option.map · _) (funext hf)
  · rfl

theorem pending_same {s s' : Scheduler K} {id : String} {f : Entry K → Entry K}
    (hs : s'.workers = s.workers.modify id f) (hf : ∀ e, (f e).worker.pendingTasks = e.worker.pendingTasks) :
    s'.pending = s.pending := by
  rw [pending_modify (g := fun n => n) hs hf]
  simp

theorem pending_congr {s s' : Scheduler K} (hs : s'.workers = s.workers) : s'.pending = s.pending := by
  funext v
  rw [Scheduler.pending, hs, Scheduler.pending]

variable [Field K] [LinearOrder K]

theorem pending_registerWorker (env : Env K) (s : Scheduler K) (id address tier : String) (vramMb : Int) :
    (s.registerWorker env id address tier vramMb).pending = Function.update s.pending id (some 0) := by
  funext v
  show (Dict.get? (Dict.set s.workers id _) v).map _ = _
  rw [Dict.get?_set, Function.update_apply]
  split
  · rename_i h; rw [if_pos h.symm]; rfl
  · rename_i h; rw [if_neg (Ne.symm h)]; rfl

variable [FloorRing K]

/-- Completing a request changes what is learned of its worker, and no slot. -/
theorem pending_complete (env : Env K) (s : Scheduler K) (id : String) (e2eMs : K) (tokens : Int) :
    (s.complete env id e2eMs tokens).pending = s.pending := by
  unfold Scheduler.complete
  cases s.workers.get? id with
  | none => exact pending_congr rfl
  | some e => exact pending_same (f := fun e => e.learn e2eMs tokens) rfl fun _ => rfl

theorem pending_feedbackLoop (env : Env K) (s : Scheduler K) (id : String) (e2eMs : K) (tokens : Int) :
    (s.feedbackLoop env id e2eMs tokens).pending = Function.update s.pending id ((s.pending id).map (· - 1)) := by
  have hlearned : (if e2eMs > 0 then s.complete env id e2eMs tokens else s).pending = s.pending := by
    split
    · exact pending_complete env s id e2eMs tokens
    · rfl
  have hworkers : (s.feedbackLoop env id e2eMs tokens).workers =
      (if e2eMs > 0 then s.complete env id e2eMs tokens else s).workers.modify id fun e =>
        { e with worker := e.worker.finish } := rfl
  rw [pending_modify (g := (· - 1)) hworkers fun _ => rfl, hlearned]

/-- The desk's slots count what the scheduler's do. -/
def Server.Follows (l : Server K) : Prop := l.sched.pending = fun id => (l.desk.slot id).map Slot.pending

theorem update_map (f : String → Option Slot) (w : String) (x : Option Slot) :
    (fun id => (Function.update f w x id).map Slot.pending) =
      Function.update (fun id => (f id).map Slot.pending) w (x.map Slot.pending) := by
  funext v
  rw [Function.update_apply, Function.update_apply]
  split <;> rfl

theorem Server.Follows.exec {env : Env K} {l : Server K} (h : l.Follows) (m : Move K) : (m.exec env l).Follows := by
  unfold Server.Follows at h
  have hreply : ∀ (t : Ticket String) (e2eMs : K) (tokens : Int),
      (l.sched.feedbackLoop env t.worker e2eMs tokens).pending =
        fun id => ((l.desk.step 0 (.finish t)).slot id).map Slot.pending := by
    intro t e2eMs tokens
    refine (pending_feedbackLoop env l.sched t.worker e2eMs tokens).trans ?_
    rw [h]
    refine Eq.trans ?_ (update_map l.desk.slot t.worker _).symm
    rw [Option.map_map, Option.map_map]
    rfl
  unfold Server.Follows
  cases m with
  | register r =>
    refine (pending_registerWorker env l.sched r.workerId r.address r.tier r.vramMb).trans ?_
    rw [h]
    exact (update_map l.desk.slot r.workerId (some .empty)).symm
  | execute order req =>
    have hp := pick_picked env l.sched order req
    show (l.sched.pickBestWorker env order req).2.pending =
      fun id => ((l.desk.step 0 (pickAct (l.sched.pickBestWorker env order req).1)).slot id).map Slot.pending
    generalize l.sched.pickBestWorker env order req = r at hp ⊢
    cases hp with
    | admitted w e s' known workers completed predHistory =>
      refine (pending_modify (g := (· + 1)) workers fun _ => rfl).trans ?_
      rw [h]
      refine Eq.trans ?_ (update_map l.desk.slot w _).symm
      rw [Option.map_map, Option.map_map]
      rfl
    | refused err s' workers completed predHistory => exact (pending_congr workers).trans h
  | reply t req o =>
    cases o with
    | undialled => exact h
    | predicted latencyMs promptTokens => exact hreply t _ _
    | failed => exact hreply t _ _
  | setVram id freeMb =>
    have hworkers : (l.sched.setWorkerVram id freeMb).workers = l.sched.workers.modify id fun e =>
        { e with worker := { e.worker with lastKnownVram := freeMb } } := rfl
    exact (pending_same hworkers fun _ => rfl).trans h
  | resetWorker id =>
    have hworkers : (l.sched.resetWorkerState id).workers = l.sched.workers.modify id Entry.reset := rfl
    exact (pending_same hworkers fun _ => rfl).trans h
  | resetStats => exact (pending_congr rfl).trans h

theorem Server.Follows.enabled {env : Env K} {l : Server K} (h : l.Follows) {m : Move K} (hen : m.Enabled l) :
    l.desk.Enabled (m.act env l.sched) := by
  cases m with
  | execute order req =>
    have hp := pick_picked env l.sched order req
    show l.desk.Enabled (pickAct (l.sched.pickBestWorker env order req).1)
    generalize l.sched.pickBestWorker env order req = r at hp ⊢
    cases hp with
    | admitted w e s' known workers completed predHistory =>
      have hslot : ((l.desk.slot w).map Slot.pending).isSome := by
        rw [← congrFun h w, Scheduler.pending, known]
        rfl
      rwa [Option.isSome_map] at hslot
    | refused err s' workers completed predHistory => exact trivial
  | reply t req o =>
    cases o with
    | undialled => exact trivial
    | predicted latencyMs promptTokens => exact hen.1
    | failed => exact hen.1
  | _ => exact trivial

theorem Server.Follows.settled {env : Env K} {l : Server K} (h : l.Follows) {m : Move K} (hok : m.Settled l) :
    l.desk.Settled (m.act env l.sched) := by
  cases m with
  | register r =>
    have hnone : (l.desk.slot r.workerId).map Slot.pending = none := by
      rw [← congrFun h r.workerId, Scheduler.pending, Dict.get?_eq_none_iff.2 hok]
      rfl
    exact Option.map_eq_none_iff.1 hnone
  | execute order req =>
    show l.desk.Settled (pickAct (l.sched.pickBestWorker env order req).1)
    cases (l.sched.pickBestWorker env order req).1 <;> exact trivial
  | reply t req o => cases o <;> exact trivial
  | _ => exact trivial

/-- The calls of the desk are all different, and those that ended without a word are still on it. -/
structure Server.Distinct (l : Server K) : Prop where
  serial : ∀ t ∈ l.desk.live, t.serial < l.desk.history.length
  live : l.desk.live.Nodup
  lost : ∀ t ∈ l.undialled, t ∈ l.desk.live
  undialled : l.undialled.Nodup

omit [LinearOrder K] [FloorRing K] in
theorem Server.Distinct.init : (Server.init : Server K).Distinct :=
  ⟨fun _ h => absurd h List.not_mem_nil, .nil, fun _ h => absurd h List.not_mem_nil, .nil⟩

omit [Field K] [LinearOrder K] [FloorRing K] in
theorem Server.Distinct.congr {l l' : Server K} (h : l.Distinct) (hlive : l'.desk.live = l.desk.live)
    (hhistory : l'.desk.history = l.desk.history) (hundialled : l'.undialled = l.undialled) : l'.Distinct := by
  constructor
  · rw [hlive, hhistory]
    exact h.serial
  · rw [hlive]
    exact h.live
  · rw [hlive, hundialled]
    exact h.lost
  · rw [hundialled]
    exact h.undialled

theorem Server.Distinct.exec {env : Env K} {l : Server K} (h : l.Distinct) {m : Move K} (hen : m.Enabled l) :
    (m.exec env l).Distinct := by
  have hkeep : l.undialled ++ [] = l.undialled := List.append_nil _
  -- a call that reports what became of it
  have hclosed : ∀ t ∉ l.undialled, ∀ l' : Server K, l'.desk = l.desk.step 0 (.finish t) → l'.undialled = l.undialled →
      l'.Distinct := by
    intro t ht l' hdesk hundialled
    constructor
    · rw [hdesk]
      exact fun u hu => h.serial u (List.mem_of_mem_erase hu)
    · rw [hdesk]
      exact h.live.erase t
    · rw [hdesk, hundialled]
      intro u hu
      refine (List.mem_erase_of_ne ?_).2 (h.lost u hu)
      rintro rfl
      exact ht hu
    · rw [hundialled]
      exact h.undialled
  cases m with
  | register r => exact h.congr rfl rfl hkeep
  | execute order req =>
    cases hr : (l.sched.pickBestWorker env order req).1 with
    | error e =>
      have hdesk : ((Move.execute order req).exec env l).desk = l.desk := by
        show l.desk.step 0 (pickAct (l.sched.pickBestWorker env order req).1) = _
        rw [hr]
        rfl
      exact h.congr (by rw [hdesk]) (by rw [hdesk]) hkeep
    | ok w =>
      have hdesk : ((Move.execute order req).exec env l).desk = l.desk.step 0 (.enter w) := by
        show l.desk.step 0 (pickAct (l.sched.pickBestWorker env order req).1) = _
        rw [hr]
        rfl
      have hundialled : ((Move.execute order req).exec env l).undialled = l.undialled := hkeep
      constructor
      · rw [hdesk]
        intro t ht
        show t.serial < l.desk.history.length + 1
        rcases List.mem_append.1 ht with ht | ht
        · have hlt := h.serial t ht
          omega
        · rw [List.mem_singleton.1 ht]
          exact Nat.lt_succ_self _
      · rw [hdesk]
        refine List.nodup_append.2 ⟨h.live, List.nodup_singleton _, fun t ht u hu heq => ?_⟩
        rw [List.mem_singleton.1 hu] at heq
        have hlt := h.serial t ht
        rw [heq] at hlt
        exact Nat.lt_irrefl _ hlt
      · rw [hdesk, hundialled]
        exact fun t ht => List.mem_append_left _ (h.lost t ht)
      · rw [hundialled]
        exact h.undialled
  | reply t req o =>
    cases o with
    | undialled =>
      refine ⟨h.serial, h.live, fun u hu => ?_, List.nodup_append.2 ⟨h.undialled, List.nodup_singleton _, ?_⟩⟩
      · rcases List.mem_append.1 hu with hu | hu
        · exact h.lost u hu
        · rw [List.mem_singleton.1 hu]
          exact hen.1
      · intro u hu v hv heq
        rw [List.mem_singleton.1 hv] at heq
        exact hen.2 (heq ▸ hu)
    | predicted latencyMs promptTokens => exact hclosed t hen.2 _ rfl hkeep
    | failed => exact hclosed t hen.2 _ rfl hkeep
  | setVram id freeMb => exact h.congr rfl rfl hkeep
  | resetWorker id => exact h.congr rfl rfl hkeep
  | resetStats => exact h.congr rfl rfl hkeep

/-- The calls in progress on a worker. -/
def Server.inProgress (l : Server K) (id : String) : Nat :=
  (l.desk.live.filter fun t => t ∉ l.undialled).countP fun t => t.worker = id

/-- The calls on a worker that ended without a word. -/
def Server.forgotten (l : Server K) (id : String) : Nat := l.undialled.countP fun t => t.worker = id

omit [Field K] [LinearOrder K] [FloorRing K] in
theorem Server.Distinct.outstanding {l : Server K} (h : l.Distinct) (id : String) :
    l.desk.outstanding id = l.inProgress id + l.forgotten id := by
  have hlost : (l.desk.live.filter fun t => t ∈ l.undialled).Perm l.undialled := by
    refine (List.perm_ext_iff_of_nodup (h.live.filter _) h.undialled).2 fun t => ?_
    rw [List.mem_filter, decide_eq_true_eq]
    exact and_iff_right_of_imp (h.lost t)
  have hsplit := List.countP_eq_countP_filter_add l.desk.live (fun t => decide (t.worker = id)) fun t => decide (t ∈ l.undialled)
  have hopen : (l.desk.live.filter fun t => !decide (t ∈ l.undialled)) = l.desk.live.filter fun t => t ∉ l.undialled := by
    simp
  rw [hopen, hlost.countP_eq] at hsplit
  rw [Desk.outstanding, hsplit, Nat.add_comm]
  rfl

/-- In any run that registers no worker again, a worker's pending tasks are the calls in progress on it, and the calls
on it that ended because it could not be dialled: these are never given back. -/
theorem slots_told {env : Env K} {ms : List (Move K)}
    (hms : Trace.Allowed (Move.exec env) (fun l m => m.Enabled l ∧ m.Settled l) .init ms) {id : String} {e : Entry K}
    (he : (Trace.play (Move.exec env) .init ms).sched.workers.get? id = some e) :
    e.worker.pendingTasks = (Trace.play (Move.exec env) .init ms).inProgress id +
      (Trace.play (Move.exec env) .init ms).forgotten id := by
  have hkept : (Trace.play (Move.exec env) .init ms).Follows ∧ Desk.Kept (Trace.play (Move.exec env) .init ms).desk ∧
      (Trace.play (Move.exec env) .init ms).Distinct := by
    refine Trace.play_invariant (P := fun l => l.Follows ∧ Desk.Kept l.desk ∧ l.Distinct) ?_ ⟨rfl, .init, .init⟩ hms
    rintro l m ⟨hfollows, hkept, hdistinct⟩ ⟨hen, hok⟩
    exact ⟨hfollows.exec m, hkept.step (hfollows.enabled hen) (hfollows.settled hok), hdistinct.exec hen⟩
  obtain ⟨hfollows, hkept, hdistinct⟩ := hkept
  have hpending := congrFun hfollows id
  rw [Scheduler.pending, he] at hpending
  obtain ⟨σ, hσ, hcount⟩ := Option.map_eq_some_iff.1 hpending.symm
  calc
    e.worker.pendingTasks = σ.pending := hcount.symm
    _ = Desk.outstanding (Trace.play (Move.exec env) .init ms).desk id := hkept.pending id σ hσ
    _ = _ := hdistinct.outstanding id

end Slots

/-! ## Examples -/

/-- A call that cannot dial its worker, and one that is in progress. -/
def undialledRun : List (Move ℚ) :=
  [.register { workerId := "a", address := "a:1", tier := "small", vramGb := 24 }, .execute ["a"] hello,
    .reply ⟨0, "a", 1, 1⟩ hello .undialled, .execute ["a"] hello]

theorem slots_told_undialled : ∃ e,
    (Trace.play (Move.exec (plainEnv .leastLoaded)) .init undialledRun).sched.workers.get? "a" = some e ∧
      e.worker.pendingTasks = 1 + 1 := by
  obtain ⟨e, he⟩ : ∃ e,
      (Trace.play (Move.exec (plainEnv .leastLoaded)) .init undialledRun).sched.workers.get? "a" = some e := ⟨_, rfl⟩
  have hms : Trace.Allowed (Move.exec (plainEnv .leastLoaded)) (fun l m => m.Enabled l ∧ m.Settled l) .init undialledRun := by
    refine ⟨⟨trivial, List.not_mem_nil⟩, ⟨.refl _, trivial⟩, ⟨⟨?_, List.not_mem_nil⟩, trivial⟩, ⟨.refl _, trivial⟩, trivial⟩
    exact List.mem_singleton.2 rfl
  exact ⟨e, he, slots_told hms he⟩

end Dio.Manager
