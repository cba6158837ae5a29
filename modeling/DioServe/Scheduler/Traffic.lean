/-
Traffic through the scheduler, request by request. The scheduler closes requests by worker id only;
a desk beside it remembers each of them by a ticket. Whatever is done, the slots of the scheduler's
workers (`pending` and `inflight_log`) are those of the desk.
-/
import DioServe.Effect.Trace
import DioServe.Effect.DeskLog
import DioServe.Scheduler.Outcome

namespace Dio.Scheduler

open Data Effect

variable {K : Type}

/-! ## Moves -/

/-- The scheduler, and the desk that knows its requests. -/
structure Ledger (K : Type) where
  sched : State K
  desk : Desk String

/-- The operations of the scheduler's callers; a request is closed by its ticket. -/
inductive Move (K : Type)
  | register (r : Registration K)
  | unregister (workerId : String)
  | pick (a : PickArgs)
  | feedback (t : Ticket String) (e2eMs : K) (tokens : Int) (success : Bool)
  | release (t : Ticket String)
  | setHealthy (workerId : String) (healthy : Bool)
  | setVram (workerId : String) (freeMb : K)
  | setEngineMetrics (workerId : String) (snap : EngineSnapshot K)
  | noteFailure (workerId : String) (threshold : Nat)
  | noteSuccess (workerId : String)
  | resetStats

/-- A request is closed at most once. -/
def Move.Enabled (l : Ledger K) : Move K → Prop
  | .feedback t _ _ _ | .release t => t ∈ l.desk.live
  | _ => True

instance Move.decidableEnabled (l : Ledger K) : (m : Move K) → Decidable (m.Enabled l)
  | .feedback t _ _ _ | .release t => inferInstanceAs (Decidable (t ∈ l.desk.live))
  | .register _ | .unregister _ | .pick _ | .setHealthy _ _ | .setVram _ _ | .setEngineMetrics _ _ | .noteFailure _ _
  | .noteSuccess _ | .resetStats => .isTrue trivial

/-- No worker is registered again or taken out. -/
def Move.Settled (l : Ledger K) : Move K → Prop
  | .register r => r.id ∉ Dict.keys l.sched.predictors
  | .unregister _ => False
  | _ => True

instance Move.decidableSettled (l : Ledger K) : (m : Move K) → Decidable (m.Settled l)
  | .register r => inferInstanceAs (Decidable (r.id ∉ Dict.keys l.sched.predictors))
  | .unregister _ => .isFalse id
  | .pick _ | .feedback _ _ _ _ | .release _ | .setHealthy _ _ | .setVram _ _ | .setEngineMetrics _ _
  | .noteFailure _ _ | .noteSuccess _ | .resetStats => .isTrue trivial

/-- The worker's slot. -/
def DualTimescaleNlms.slot (m : DualTimescaleNlms K) : Slot := ⟨m.pending, m.inflightLog⟩

/-- The slots of the registered workers. -/
def State.slot (s : State K) (w : String) : Option Slot := (Dict.get? s.predictors w).map (·.nlms.slot)

/-- The scheduler's slots are the desk's. -/
def Ledger.Follows (l : Ledger K) : Prop := l.sched.slot = l.desk.slot

theorem mem_keys_of_healthy {s : State K} {w : String} (h : w ∈ s.healthyIds) : w ∈ Dict.keys s.predictors := by
  obtain ⟨p, hp, rfl⟩ := List.mem_map.1 h
  exact List.mem_map_of_mem (List.mem_of_mem_filter hp)

theorem isSome_slot_iff {s : State K} {w : String} : (s.slot w).isSome ↔ w ∈ Dict.keys s.predictors := by
  rw [State.slot, Option.isSome_map, Dict.get?_isSome_iff]

section Exec

variable [Field K]

/-- A new scheduler, nobody registered. -/
def Ledger.init : Ledger K := ⟨.init, .init⟩

variable [LinearOrder K] [FloorRing K] (cfg : Cfg K)

def Move.onSched (s : State K) : Move K → State K
  | .register r => Scheduler.register cfg s r.id r.tier r.totalVramMb r.freeVramMb
  | .unregister w => Scheduler.unregister s w
  | .pick a => (Scheduler.pick cfg s a).2
  | .feedback t e2eMs tokens success => Scheduler.feedback cfg s t.worker e2eMs tokens success
  | .release t => Scheduler.release s t.worker
  | .setHealthy w h => Scheduler.setHealthy s w h
  | .setVram w free => Scheduler.setVram s w free
  | .setEngineMetrics w snap => Scheduler.setEngineMetrics s w snap
  | .noteFailure w n => (Scheduler.noteFailure s w n).2
  | .noteSuccess w => Scheduler.noteSuccess s w
  | .resetStats => Scheduler.resetStats s

/-- What a pick means for the desk. -/
def pickAct (r : Except AdmissionError (String × RoutingDecision K)) : Desk.Act String :=
  match r with
  | .ok (w, _) => .enter w
  | .error _ => .skip

/-- What a move means for the desk. -/
def Move.act (s : State K) : Move K → Desk.Act String
  | .register r => .register r.id
  | .unregister w => .unregister w
  | .pick a => pickAct (Scheduler.pick cfg s a).1
  | .feedback t _ _ _ => .finish t
  | .release t => .free t
  | .setHealthy _ _ | .setVram _ _ | .setEngineMetrics _ _ | .noteFailure _ _ | .noteSuccess _ | .resetStats => .skip

def Move.exec (m : Move K) (l : Ledger K) : Ledger K :=
  ⟨m.onSched cfg l.sched, l.desk.step DualTimescaleNlms.inflightMax (m.act cfg l.sched)⟩

/-- The moves are enabled one after the other, and keep to `ok`. -/
def Runs (ok : Ledger K → Move K → Prop) : Ledger K → List (Move K) → Prop :=
  Trace.Allowed (Move.exec cfg) fun l m => m.Enabled l ∧ ok l m

/-- `l` is reached from a new scheduler by enabled moves that keep to `ok`. -/
def Ledger.Reached (ok : Ledger K → Move K → Prop) (l : Ledger K) : Prop :=
  ∃ ms, Runs cfg ok .init ms ∧ Trace.play (Move.exec cfg) .init ms = l

instance Runs.decidable (ok : Ledger K → Move K → Prop) [∀ l m, Decidable (ok l m)] (l : Ledger K) (ms : List (Move K)) :
    Decidable (Runs cfg ok l ms) :=
  inferInstanceAs (Decidable (Trace.Allowed (Move.exec cfg) (fun l m => m.Enabled l ∧ ok l m) l ms))

variable {cfg}

theorem Ledger.Reached.invariant {ok : Ledger K → Move K → Prop} {P : Ledger K → Prop} (h0 : P .init)
    (hstep : ∀ l m, P l → m.Enabled l → ok l m → P (m.exec cfg l)) {l : Ledger K} (h : l.Reached cfg ok) : P l := by
  obtain ⟨ms, hms, rfl⟩ := h
  exact Trace.play_invariant (fun l m hl hm => hstep l m hl hm.1 hm.2) h0 hms

end Exec

/-! ## Slots -/

theorem slot_congr {s s' : State K} (h : s'.predictors = s.predictors) : s'.slot = s.slot := by
  funext w
  rw [State.slot, State.slot, h]

/-- Changing one worker changes its slot only. -/
theorem slot_onNlms {f : DualTimescaleNlms K → DualTimescaleNlms K} {g : Slot → Slot}
    (hf : ∀ m, (f m).slot = g m.slot) (s : State K) (w : String) :
    (s.onNlms w f).slot = Function.update s.slot w ((s.slot w).map g) := by
  funext v
  rw [State.slot, State.get?_onNlms, Function.update_apply]
  split
  · rename_i he
    subst he
    rw [State.slot, Option.map_map, Option.map_map]
    exact congrArg (Option.map · _) (funext fun x => hf x.nlms)
  · rfl

theorem slot_onNlms_same {f : DualTimescaleNlms K → DualTimescaleNlms K} (hf : ∀ m, (f m).slot = m.slot)
    (s : State K) (w : String) : (s.onNlms w f).slot = s.slot := by
  rw [slot_onNlms (g := id) hf, Option.map_id, id_eq, Function.update_eq_self]

theorem slot_free (m : DualTimescaleNlms K) : m.free.slot = m.slot.free := by
  unfold DualTimescaleNlms.free
  split
  · rfl
  · rename_i h
    show (⟨m.pending, m.inflightLog⟩ : Slot) = ⟨m.pending - 1, m.inflightLog⟩
    rw [show m.pending - 1 = m.pending by omega]

theorem slot_markAdmitted (m : DualTimescaleNlms K) : m.markAdmitted.slot = m.slot.enter DualTimescaleNlms.inflightMax := by
  simp only [DualTimescaleNlms.slot, DualTimescaleNlms.markAdmitted, Slot.enter]

theorem slot_release (s : State K) (w : String) :
    (release s w).slot = Function.update s.slot w ((s.slot w).map .free) := slot_onNlms slot_free s w

theorem slot_unregister (s : State K) (w : String) : (unregister s w).slot = Function.update s.slot w none := by
  funext v
  rw [Function.update_apply]
  split
  · rename_i he
    subst he
    show (Dict.get? (Dict.erase s.predictors v) v).map _ = none
    rw [Dict.get?_erase_self]; rfl
  · rename_i hne
    show (Dict.get? (Dict.erase s.predictors w) v).map _ = _
    rw [Dict.get?_erase_ne (Ne.symm hne)]; rfl

theorem slot_setHealthy (s : State K) (w : String) (h : Bool) : (setHealthy s w h).slot = s.slot := by
  rw [slot_congr (predictors_setHealthy s w h)]
  exact slot_onNlms_same (by intro m; rfl) s w

theorem slot_noteFailure (s : State K) (w : String) (n : Nat) : (noteFailure s w n).2.slot = s.slot := by
  rcases predictors_noteFailure s w n with h | h
  · rw [slot_congr h]
    exact slot_onNlms_same (by intro m; rfl) s w
  · exact slot_congr h

variable [Field K]

theorem slot_register (cfg : Cfg K) (s : State K) (r : Registration K) :
    (register cfg s r.id r.tier r.totalVramMb r.freeVramMb).slot = Function.update s.slot r.id (some .empty) := by
  funext v
  show (Dict.get? (Dict.set s.predictors r.id _) v).map _ = _
  rw [Dict.get?_set, Function.update_apply]
  split
  · rename_i he; rw [if_pos he.symm]; rfl
  · rename_i hne; rw [if_neg (Ne.symm hne)]; rfl

variable [LinearOrder K]

theorem slot_setEngineMetrics (s : State K) (w : String) (snap : EngineSnapshot K) :
    (setEngineMetrics s w snap).slot = s.slot := by
  rcases predictors_setEngineMetrics s w snap with ⟨f, hf, h⟩ | h
  · rw [slot_congr h]
    apply slot_onNlms_same
    intro m
    obtain ⟨free, hm⟩ := hf m
    rw [hm]
    rfl
  · exact slot_congr h

/-- A completion takes a depth off the log and counts the slot down. -/
theorem slot_feedback (cfg : Cfg K) (s : State K) (w : String) (e2eMs : K) (tokens : Int) (success : Bool) :
    (feedback cfg s w e2eMs tokens success).slot = Function.update s.slot w ((s.slot w).map .finish) := by
  let read : State K := s.onNlms w fun m => { m with inflightLog := m.inflightLog.tail }
  have hread : read.slot = Function.update s.slot w ((s.slot w).map fun σ => ⟨σ.pending, σ.log.tail⟩) :=
    slot_onNlms (fun _ => rfl) s w
  let learned : State K :=
    if success then completed cfg read w e2eMs tokens (admittedDepth s w) else failed read
  have hlearned : learned.slot = read.slot := by
    cases success with
    | false => rfl
    | true =>
      have hsame : ∀ m : DualTimescaleNlms K, (m.update e2eMs tokens (admittedDepth s w)).2.slot = m.slot := by
        intro m
        have h := DualTimescaleNlms.update_sameSlot m e2eMs tokens (admittedDepth s w)
        rw [DualTimescaleNlms.slot, DualTimescaleNlms.slot, h.pending, h.inflightLog]
      funext v
      show (Dict.get? (Dict.modify read.predictors w fun x => x.learn e2eMs tokens (admittedDepth s w)) v).map _ = _
      rw [Dict.get?_modify, State.slot]
      split
      · rw [Option.map_map]
        exact congrArg (Option.map · _) (funext fun x => hsame x.nlms)
      · rfl
  have hfree : (feedback cfg s w e2eMs tokens success).slot =
      Function.update learned.slot w ((learned.slot w).map .free) := slot_onNlms slot_free learned w
  rw [hfree, hlearned, hread, Function.update_idem, Function.update_self, Option.map_map]
  rfl

variable [FloorRing K] {cfg : Cfg K}

theorem slot_pick (cfg : Cfg K) (s : State K) (a : PickArgs) :
    match (pick cfg s a).1 with
    | .ok (w, _) => (pick cfg s a).2.slot = Function.update s.slot w ((s.slot w).map (.enter DualTimescaleNlms.inflightMax))
    | .error _ => (pick cfg s a).2.slot = s.slot := by
  have h := pick_effect cfg s a
  unfold PickEffect at h
  cases hr : (pick cfg s a).1 with
  | ok p =>
    rw [hr] at h
    exact (slot_congr h).trans (slot_onNlms slot_markAdmitted s p.1)
  | error e =>
    rw [hr] at h
    exact slot_congr h

/-! ## The desk follows the scheduler -/

omit [LinearOrder K] [FloorRing K] in
theorem Ledger.Follows.init : (Ledger.init : Ledger K).Follows := rfl

/-- The slots of scheduler and desk change alike. -/
theorem Ledger.Follows.exec {l : Ledger K} (h : l.Follows) (m : Move K) : (m.exec cfg l).Follows := by
  unfold Ledger.Follows at h ⊢
  cases m with
  | register r => exact (slot_register cfg l.sched r).trans (by rw [h]; rfl)
  | unregister w => exact (slot_unregister l.sched w).trans (by rw [h]; rfl)
  | pick a =>
    have hp := slot_pick cfg l.sched a
    show (pick cfg l.sched a).2.slot = (l.desk.step _ (pickAct (pick cfg l.sched a).1)).slot
    split at hp
    · rename_i w d hw
      rw [hw, hp, h]; rfl
    · rename_i e he
      rw [he, hp, h]; rfl
  | feedback t e2e tokens ok => exact (slot_feedback cfg l.sched t.worker e2e tokens ok).trans (by rw [h]; rfl)
  | release t => exact (slot_release l.sched t.worker).trans (by rw [h]; rfl)
  | setHealthy w ok => exact (slot_setHealthy l.sched w ok).trans h
  | setVram w f => exact (slot_onNlms_same (by intro m; rfl) l.sched w).trans h
  | setEngineMetrics w snap => exact (slot_setEngineMetrics l.sched w snap).trans h
  | noteFailure w n => exact (slot_noteFailure l.sched w n).trans h
  | noteSuccess w => exact h
  | resetStats => exact h

/-- The worker a pick returns may be chosen. -/
theorem pick_mem {s s' : State K} {a : PickArgs} {w : String} {d : RoutingDecision K}
    (h : pick cfg s a = (.ok (w, d), s')) : w ∈ eligible s a.allowedBackends := by
  have hc := pick_cases cfg s a
  rw [h] at hc
  cases hc with
  | byCost _ _ _ hmem => exact hmem
  | direct _ _ _ _ hmem => exact hmem

theorem Ledger.Follows.enabled {l : Ledger K} (h : l.Follows) {m : Move K} (hen : m.Enabled l) :
    l.desk.Enabled (m.act cfg l.sched) := by
  cases m with
  | pick a =>
    show l.desk.Enabled (pickAct (pick cfg l.sched a).1)
    obtain ⟨r, s', hr⟩ : ∃ r s', pick cfg l.sched a = (r, s') := ⟨_, _, rfl⟩
    rw [hr]
    cases r with
    | error e => exact trivial
    | ok p =>
      have hmem : p.1 ∈ l.sched.healthyIds := (mem_eligible_iff.1 (pick_mem hr)).1
      show (l.desk.slot p.1).isSome
      rw [← h, isSome_slot_iff]
      exact mem_keys_of_healthy hmem
  | feedback t _ _ _ => exact hen
  | release t => exact hen
  | _ => exact trivial

theorem Ledger.Follows.settled {l : Ledger K} (h : l.Follows) {m : Move K} (hok : m.Settled l) :
    l.desk.Settled (m.act cfg l.sched) := by
  cases m with
  | register r =>
    show l.desk.slot r.id = none
    rw [← h]
    exact Option.map_eq_none_iff.2 (Dict.get?_eq_none_iff.2 hok)
  | unregister w => exact absurd hok id
  | pick a =>
    show l.desk.Settled (pickAct (pick cfg l.sched a).1)
    cases (pick cfg l.sched a).1 <;> exact trivial
  | _ => exact trivial

end Dio.Scheduler
