/-
The in-flight log (`scheduler.py`, `_mark_admitted`, `release`, `feedback`). `release` leaves the
depth of its request on the log, so a log is in step with its slot exactly in the runs that release
nothing; and `feedback` reads the log first in, first out, so it hands the learner a request's own
depth when requests also finish in order.
-/
import DioServe.Scheduler.Conservation

namespace Dio.Scheduler

open Data Effect DualTimescaleNlms

variable {K : Type}

/-! ## Slots seen from the desk -/

theorem Ledger.Follows.slot_eq {l : Ledger K} (h : l.Follows) {w : String} {x : Worker K}
    (hx : Dict.get? l.sched.predictors w = some x) : l.desk.slot w = some x.nlms.slot := by
  rw [← h, State.slot, hx]; rfl

theorem Ledger.Follows.exists_worker {l : Ledger K} (h : l.Follows) {w : String} {σ : Slot}
    (hσ : l.desk.slot w = some σ) : ∃ x, Dict.get? l.sched.predictors w = some x ∧ x.nlms.slot = σ := by
  rw [← h] at hσ
  exact Option.map_eq_some_iff.1 hσ

theorem admittedDepth_eq {l : Ledger K} (h : l.Follows) {w : String} {σ : Slot} (hσ : l.desk.slot w = some σ) :
    admittedDepth l.sched w = σ.log.headD 1 := by
  obtain ⟨x, hx, rfl⟩ := h.exists_worker hσ
  rw [admittedDepth, hx]
  rfl

/-- The desk follows the scheduler, and its slots count the requests in flight. -/
structure Tracked (l : Ledger K) : Prop where
  follows : l.Follows
  kept : l.desk.Kept

/-- Each worker's log is as long as its count of requests, so empty when it is idle; and a request
admitted alone is learned from as one. -/
structure LogsTrue (l : Ledger K) : Prop where
  length : ∀ w x, Dict.get? l.sched.predictors w = some x → x.nlms.inflightLog.length = x.nlms.pending
  idle : ∀ w x, Dict.get? l.sched.predictors w = some x → x.nlms.pending = 0 → x.nlms.inflightLog = []
  alone : ∀ t, l.desk.Alone t → admittedDepth l.sched t.worker = 1

theorem logsTrue_of_inStep {l : Ledger K} (h : Tracked l) (hs : l.desk.InStep) (ha : l.desk.NotesAlone) : LogsTrue l := by
  have hlen : ∀ w x, Dict.get? l.sched.predictors w = some x → x.nlms.inflightLog.length = x.nlms.pending :=
    fun w x hx => hs w _ (h.follows.slot_eq hx)
  refine ⟨hlen, fun w x hx h0 => List.eq_nil_of_length_eq_zero (by rw [hlen w x hx, h0]), fun t ht => ?_⟩
  obtain ⟨σ, hσ⟩ := Option.isSome_iff_exists.1 (h.kept.registered t ht.live)
  rw [admittedDepth_eq h.follows hσ, ha t ht σ hσ]
  rfl

theorem LogsTrue.inStep {l : Ledger K} (hf : l.Follows) (h : LogsTrue l) : l.desk.InStep := by
  intro w σ hσ
  obtain ⟨x, hx, rfl⟩ := hf.exists_worker hσ
  exact h.length w x hx

/-- The learner is given the request's own depth: `feedback` hands `update` the depth it takes off the
log, contended when above one. -/
def Attributed (l : Ledger K) (t : Ticket String) : Prop :=
  admittedDepth l.sched t.worker = t.depth ∧ (1 < admittedDepth l.sched t.worker ↔ 1 < t.depth)

/-- The oldest admission on the worker that no completion has read was as deep as this one. -/
def OldestAlike (l : Ledger K) (t : Ticket String) : Prop :=
  ∃ u, (l.desk.unread t.worker).head? = some u ∧ u.depth = t.depth

theorem attributed_iff {l : Ledger K} (h : Tracked l) (hn : l.desk.Noted) {t : Ticket String} (ht : t ∈ l.desk.live) :
    Attributed l t ↔ OldestAlike l t := by
  obtain ⟨σ, hσ⟩ := Option.isSome_iff_exists.1 (h.kept.registered t ht)
  rw [Attributed, admittedDepth_eq h.follows hσ, OldestAlike, ← hn.head_eq_iff ht hσ 1]
  exact ⟨fun hd => hd.1, fun hd => ⟨hd, by rw [hd]⟩⟩

variable [Field K] [LinearOrder K] [FloorRing K] {cfg : Cfg K}

/-- No worker is registered again or taken out, and none ever has more requests in flight than its
log holds. -/
def Roomy (cfg : Cfg K) (l : Ledger K) (m : Move K) : Prop :=
  m.Settled l ∧ (m.exec cfg l).desk.Bounded inflightMax

omit [LinearOrder K] [FloorRing K] in
theorem Tracked.init : Tracked (Ledger.init : Ledger K) := ⟨.init, .init⟩

theorem Tracked.exec {l : Ledger K} (h : Tracked l) {m : Move K} (hen : m.Enabled l) (hok : m.Settled l) :
    Tracked (m.exec cfg l) :=
  ⟨h.follows.exec m, h.kept.step (h.follows.enabled hen) (h.follows.settled hok)⟩

/-- At most as many requests are in flight, on all workers, as one log holds. -/
def Few (cfg : Cfg K) (l : Ledger K) (m : Move K) : Prop :=
  m.Settled l ∧ (m.exec cfg l).desk.live.length ≤ inflightMax

instance Few.decidable (l : Ledger K) (m : Move K) : Decidable (Few cfg l m) :=
  inferInstanceAs (Decidable (m.Settled l ∧ (m.exec cfg l).desk.live.length ≤ inflightMax))

theorem Few.roomy {l : Ledger K} {ms : List (Move K)} (h : Runs cfg (Few cfg) l ms) : Runs cfg (Roomy cfg) l ms :=
  Trace.Allowed.mono (fun _ _ hm => ⟨hm.1, hm.2.1, fun _ => Nat.le_trans List.countP_le_length hm.2.2⟩) h

/-! ## In step with the slots -/

/-- Only a release closes a request without reading the log. -/
theorem reading_iff {s : State K} {m : Move K} : Desk.Reading (m.act cfg s) ↔ ∀ t, m ≠ .release t := by
  cases m with
  | release t => exact iff_of_false id fun h => h t rfl
  | pick a =>
    show Desk.Reading (pickAct (pick cfg s a).1) ↔ _
    cases (pick cfg s a).1 <;> exact iff_of_true trivial fun _ => nofun
  | _ => exact iff_of_true trivial fun _ => nofun

/-- Two requests on one worker: the first completes, the second is released. A third is then alone. -/
def staleDepth : List (Move ℚ) :=
  [.register oneWorker, .pick { prompt := "a" }, .pick { prompt := "b" }, .feedback ⟨0, "gpu0", 1, 1⟩ 100 1 true,
    .release ⟨1, "gpu0", 2, 1⟩, .pick { prompt := "c" }]

/-- `P` of every request that completes, when it does. -/
def OnSuccess (P : Ledger K → Ticket String → Prop) (l : Ledger K) (m : Move K) : Prop :=
  ∀ t e n, m = .feedback t e n true → P l t

/-- Requests on a worker complete or fail in the order of their admission, and none is released. -/
def Move.InOrder (cfg : Cfg K) (l : Ledger K) (m : Move K) : Prop := l.desk.InOrder (m.act cfg l.sched)

end Dio.Scheduler
