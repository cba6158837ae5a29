/-
Hot re-registration (`register` again for a worker that has requests in flight, as `add_backend` and
`POST /debug/backends` do). The new predictor starts at no request in flight, and closes are keyed by
worker id only, so a request of the old registration that is closed while one of the new is in
flight frees the other's slot.
-/
import DioServe.Scheduler.InflightLog

namespace Dio.Scheduler

open Data Effect

variable {K : Type}

/-- No worker is taken out; registering again is fine. -/
def Move.Stays (_ : Ledger K) : Move K → Prop
  | .unregister _ => False
  | _ => True

instance Move.decidableStays (l : Ledger K) : (m : Move K) → Decidable (m.Stays l)
  | .unregister _ => .isFalse id
  | .register _ | .pick _ | .feedback _ _ _ _ | .release _ | .setHealthy _ _ | .setVram _ _ | .setEngineMetrics _ _
  | .noteFailure _ _ | .noteSuccess _ | .resetStats => .isTrue trivial

/-- Each worker counts at least the requests in flight that its latest registration admitted. -/
def SlotsTruthful (l : Ledger K) : Prop :=
  ∀ w x, Dict.get? l.sched.predictors w = some x → l.desk.current w ≤ x.nlms.pending

/-- The ticket a move closes. -/
def Move.closes : Move K → Option (Ticket String)
  | .feedback t _ _ _ | .release t => some t
  | _ => none

/-- A request of an earlier registration is closed only while none of the latest is in flight. -/
def ClosedApart (l : Ledger K) (m : Move K) : Prop :=
  ∀ t, m.closes = some t → t.generation = l.desk.generation t.worker ∨ l.desk.current t.worker = 0

theorem slotsTruthful_iff {l : Ledger K} (h : l.Follows) : SlotsTruthful l ↔ l.desk.Covered := by
  constructor
  · intro hs w σ hσ
    obtain ⟨x, hx, rfl⟩ := h.exists_worker hσ
    exact hs w x hx
  · intro hc w x hx
    exact hc w _ (h.slot_eq hx)

variable [Field K] [LinearOrder K] [FloorRing K] {cfg : Cfg K}

/-- Closing a request of an earlier registration frees no slot. -/
def FreesOwn (cfg : Cfg K) (l : Ledger K) (m : Move K) : Prop :=
  ∀ t, m.closes = some t → t.generation ≠ l.desk.generation t.worker →
    pending (m.exec cfg l).sched t.worker = pending l.sched t.worker

theorem untangled_iff {l : Ledger K} {m : Move K} : l.desk.Untangled (m.act cfg l.sched) ↔ ClosedApart l m := by
  cases m with
  | feedback t _ _ _ => exact ⟨fun h u hu => by cases hu; exact h, fun h => h t rfl⟩
  | release t => exact ⟨fun h u hu => by cases hu; exact h, fun h => h t rfl⟩
  | pick a =>
    show l.desk.Untangled (pickAct (pick cfg l.sched a).1) ↔ _
    cases (pick cfg l.sched a).1 <;> exact iff_of_true trivial fun _ => nofun
  | _ => exact iff_of_true trivial fun _ => nofun

theorem staying_of_stays {l : Ledger K} {m : Move K} (h : m.Stays l) : Desk.Staying (m.act cfg l.sched) := by
  cases m with
  | unregister w => exact h
  | pick a =>
    show Desk.Staying (pickAct (pick cfg l.sched a).1)
    cases (pick cfg l.sched a).1 <;> exact trivial
  | _ => exact trivial

/-- The invariant: the desk follows the scheduler, and no slot counts more than its registration admitted. -/
structure Registered (l : Ledger K) : Prop where
  follows : l.Follows
  fair : l.desk.Fair

omit [LinearOrder K] [FloorRing K] in
theorem Registered.init : Registered (Ledger.init : Ledger K) := ⟨.init, .init⟩

theorem Registered.exec {l : Ledger K} (h : Registered l) {m : Move K} (hen : m.Enabled l) (hok : m.Stays l) :
    Registered (m.exec cfg l) :=
  ⟨h.follows.exec m, h.fair.step (h.follows.enabled hen) (staying_of_stays hok)⟩

omit [Field K] [LinearOrder K] [FloorRing K] in
theorem pending_eq {s : State K} {w : String} {σ : Slot} (h : s.slot w = some σ) : pending s w = σ.pending := by
  obtain ⟨x, hx, rfl⟩ := Option.map_eq_some_iff.1 h
  rw [pending, hx]
  rfl

/-- With the slots truthful and closes kept apart, the slot of a closed request's old worker is empty. -/
theorem freesOwn_of_apart {l : Ledger K} (h : Registered l) {m : Move K} (hen : m.Enabled l)
    (ha : ClosedApart l m) : FreesOwn cfg l m := by
  intro t ht hgen
  have hzero : l.desk.current t.worker = 0 := (ha t ht).resolve_left hgen
  have key : ∀ {f : Slot → Slot} {l' : Ledger K}, l'.Follows → Desk.Closes l.desk t f l'.desk →
      pending l'.sched t.worker = pending l.sched t.worker := by
    intro f l' hf' hc
    obtain ⟨σ, hσ⟩ := Option.isSome_iff_exists.1 (h.fair.registered t hc.mem)
    have hσ' : l'.desk.slot t.worker = some (f σ) := by rw [hc.slot, Function.update_self, hσ]; rfl
    have hle : σ.pending ≤ l.desk.current t.worker := h.fair.pending _ _ hσ
    rw [pending_eq (by rw [hf']; exact hσ'), pending_eq (by rw [h.follows]; exact hσ), hc.pending]
    omega
  cases m with
  | feedback u e n ok => cases ht; exact key (h.follows.exec _) (Desk.closes_finish (n := DualTimescaleNlms.inflightMax) hen)
  | release u => cases ht; exact key (h.follows.exec _) (Desk.closes_free (n := DualTimescaleNlms.inflightMax) hen)
  | _ => cases ht

/-- A request is in flight when its worker is registered again; another is admitted, then the first is
closed. -/
def overlap : List (Move ℚ) :=
  [.register oneWorker, .pick { prompt := "a" }, .register oneWorker, .pick { prompt := "b" },
    .feedback ⟨0, "gpu0", 1, 1⟩ 100 1 true]

def overlapped : Ledger ℚ := Trace.play (Move.exec defaultCfg) .init overlap

end Dio.Scheduler
