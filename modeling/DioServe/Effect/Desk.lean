/-
A desk of workers with slots. A request is admitted on a worker, which counts it and notes in a
bounded log how deep it was queued; later it is closed by its ticket. The worker learns that one of
its requests is closed, not which: it counts down, and a close that finishes a request also takes
the oldest depth off the log. What counters and logs then say about the requests in flight.
-/
import DioServe.Data.Deque
import Mathlib.Algebra.BigOperators.Group.List.Basic
import Mathlib.Algebra.GroupWithZero.Nat
import Mathlib.Data.List.Count
import Mathlib.Logic.Function.Basic

namespace Effect

open Data

/-- A worker's count of the requests in flight, and the depths noted at their admission, oldest first. -/
structure Slot where
  pending : Nat
  log : List Nat
  deriving DecidableEq, Repr

namespace Slot

def empty : Slot := ⟨0, []⟩

def enter (n : Nat) (s : Slot) : Slot := ⟨s.pending + 1, Deque.push n s.log (s.pending + 1)⟩

def finish (s : Slot) : Slot := ⟨s.pending - 1, s.log.tail⟩

def free (s : Slot) : Slot := ⟨s.pending - 1, s.log⟩

end Slot

/-- An admitted request: its number, its worker, how many requests were in flight there once it was
admitted (itself included), and which registration of the worker admitted it. -/
structure Ticket (ω : Type) where
  serial : Nat
  worker : ω
  depth : Nat
  generation : Nat
  deriving DecidableEq, Repr

/-- The slots of the registered workers; the requests admitted and not yet closed, oldest first; all
requests ever admitted, newest first; how often each worker was registered; the admissions whose
depth no close has taken yet; and how many requests were closed without being finished. -/
structure Desk (ω : Type) where
  slot : ω → Option Slot
  live : List (Ticket ω)
  history : List (Ticket ω)
  generation : ω → Nat
  unread : ω → List (Ticket ω)
  releases : Nat

namespace Desk

variable {ω : Type}

inductive Act (ω : Type)
  | register (w : ω)
  | unregister (w : ω)
  | enter (w : ω)
  | finish (t : Ticket ω)
  | free (t : Ticket ω)
  | skip

def init : Desk ω := ⟨fun _ => none, [], [], fun _ => 0, fun _ => [], 0⟩

/-- A request is admitted on a registered worker and closed at most once. -/
def Enabled (d : Desk ω) : Act ω → Prop
  | .enter w => (d.slot w).isSome
  | .finish t | .free t => t ∈ d.live
  | .register _ | .unregister _ | .skip => True

/-- No worker is registered again or taken out. -/
def Settled (d : Desk ω) : Act ω → Prop
  | .register w => d.slot w = none
  | .unregister _ => False
  | .enter _ | .finish _ | .free _ | .skip => True

variable [DecidableEq ω]

/-- The requests in flight on a worker. -/
def outstanding (d : Desk ω) (w : ω) : Nat := d.live.countP fun t => t.worker = w

/-- Those of them that the latest registration of the worker admitted. -/
def current (d : Desk ω) (w : ω) : Nat := d.live.countP fun t => t.worker = w ∧ t.generation = d.generation w

/-- The ticket of the next request on a worker. -/
def ticket (d : Desk ω) (w : ω) : Ticket ω := ⟨d.history.length, w, d.outstanding w + 1, d.generation w⟩

/-- One act, the logs holding at most `n` depths. -/
def step (n : Nat) (d : Desk ω) : Act ω → Desk ω
  | .register w =>
    { d with
      slot := Function.update d.slot w (some .empty)
      generation := Function.update d.generation w (d.generation w + 1)
      unread := Function.update d.unread w [] }
  | .unregister w => { d with slot := Function.update d.slot w none }
  | .enter w =>
    { d with
      slot := Function.update d.slot w ((d.slot w).map (.enter n))
      live := d.live ++ [d.ticket w]
      history := d.ticket w :: d.history
      unread := Function.update d.unread w (Deque.push n (d.unread w) (d.ticket w)) }
  | .finish t =>
    { d with
      slot := Function.update d.slot t.worker ((d.slot t.worker).map .finish)
      live := d.live.erase t
      unread := Function.update d.unread t.worker (d.unread t.worker).tail }
  | .free t =>
    { d with
      slot := Function.update d.slot t.worker ((d.slot t.worker).map .free)
      live := d.live.erase t
      releases := d.releases + 1 }
  | .skip => d

variable {n : Nat} {d : Desk ω}

/-! ## Requests in flight -/

theorem outstanding_enter (w v : ω) :
    (d.step n (.enter w)).outstanding v = d.outstanding v + if w = v then 1 else 0 := by
  simp only [outstanding, step, List.countP_append, List.countP_singleton, ticket, decide_eq_true_eq]

theorem outstanding_pos {t : Ticket ω} (ht : t ∈ d.live) : 0 < d.outstanding t.worker :=
  List.countP_pos_iff.2 ⟨t, ht, by simp⟩

theorem isSome_update {f : ω → Option Slot} {v w : ω} {x : Option Slot} (h : (f v).isSome)
    (hx : v = w → x.isSome) : (Function.update f w x v).isSome := by
  rw [Function.update_apply]
  split
  · rename_i he; exact hx he
  · exact h

theorem slot_enter_cases {w v : ω} {σ : Slot} (h : (d.step n (.enter w)).slot v = some σ) :
    (w = v ∧ ∃ σ₀, d.slot v = some σ₀ ∧ σ = σ₀.enter n) ∨ (w ≠ v ∧ d.slot v = some σ) := by
  simp only [step, Function.update_apply] at h
  split at h
  · rename_i he
    subst he
    obtain ⟨σ₀, hσ₀, rfl⟩ := Option.map_eq_some_iff.1 h
    exact .inl ⟨rfl, σ₀, hσ₀, rfl⟩
  · rename_i hne
    exact .inr ⟨Ne.symm hne, h⟩

theorem slot_register_cases {w v : ω} {σ : Slot} (h : (d.step n (.register w)).slot v = some σ) :
    (w = v ∧ σ = .empty) ∨ (w ≠ v ∧ d.slot v = some σ) := by
  simp only [step, Function.update_apply] at h
  split at h
  · rename_i he
    cases h
    exact .inl ⟨he.symm, rfl⟩
  · rename_i hne
    exact .inr ⟨Ne.symm hne, h⟩

theorem registered_enter (h : ∀ t ∈ d.live, (d.slot t.worker).isSome) {w : ω} (hw : (d.slot w).isSome) :
    ∀ t ∈ (d.step n (.enter w)).live, ((d.step n (.enter w)).slot t.worker).isSome := by
  have hmap : ((d.slot w).map (Slot.enter n)).isSome := by rw [Option.isSome_map]; exact hw
  intro t ht
  rcases List.mem_append.1 ht with ht | ht
  · exact isSome_update (h t ht) fun _ => hmap
  · rw [List.mem_singleton.1 ht]
    exact isSome_update hw fun _ => hmap

section Closes

variable {t : Ticket ω} {f : Slot → Slot} {d' : Desk ω}

/-- What a close does to slots and requests, whether or not it takes a depth off the log. -/
structure Closes (d : Desk ω) (t : Ticket ω) (f : Slot → Slot) (d' : Desk ω) : Prop where
  mem : t ∈ d.live
  pending : ∀ σ, (f σ).pending = σ.pending - 1
  live : d'.live = d.live.erase t
  generation : d'.generation = d.generation
  slot : d'.slot = Function.update d.slot t.worker ((d.slot t.worker).map f)

theorem closes_finish {t : Ticket ω} (ht : t ∈ d.live) : Closes d t .finish (d.step n (.finish t)) :=
  ⟨ht, fun _ => rfl, rfl, rfl, rfl⟩

theorem closes_free {t : Ticket ω} (ht : t ∈ d.live) : Closes d t .free (d.step n (.free t)) :=
  ⟨ht, fun _ => rfl, rfl, rfl, rfl⟩

theorem Closes.slot_self (hc : Closes d t f d') {σ' : Slot} (h : d'.slot t.worker = some σ') :
    ∃ σ, d.slot t.worker = some σ ∧ σ' = f σ := by
  rw [hc.slot, Function.update_self] at h
  obtain ⟨σ, hσ, rfl⟩ := Option.map_eq_some_iff.1 h
  exact ⟨σ, hσ, rfl⟩

theorem Closes.slot_ne (hc : Closes d t f d') {w : ω} (hw : w ≠ t.worker) : d'.slot w = d.slot w := by
  rw [hc.slot, Function.update_of_ne hw]

theorem Closes.isSome_slot (hc : Closes d t f d') {w : ω} (hw : (d.slot w).isSome) (ht : (d.slot t.worker).isSome) :
    (d'.slot w).isSome := by
  rw [hc.slot]
  refine isSome_update hw fun _ => ?_
  rw [Option.isSome_map]
  exact ht

theorem Closes.outstanding (hc : Closes d t f d') (v : ω) :
    d'.outstanding v = d.outstanding v - if t.worker = v then 1 else 0 := by
  unfold Desk.outstanding
  rw [hc.live, List.countP_erase]
  simp [hc.mem]

theorem Closes.current (hc : Closes d t f d') (v : ω) :
    d'.current v = d.current v - if t.worker = v ∧ t.generation = d.generation v then 1 else 0 := by
  unfold Desk.current
  rw [hc.live, hc.generation, List.countP_erase]
  simp [hc.mem]

end Closes

/-- The slots count the requests in flight. -/
structure Kept (d : Desk ω) : Prop where
  registered : ∀ t ∈ d.live, (d.slot t.worker).isSome
  pending : ∀ w σ, d.slot w = some σ → σ.pending = d.outstanding w

theorem Kept.init : Kept (init : Desk ω) := ⟨fun _ h => absurd h List.not_mem_nil, fun _ _ h => nomatch h⟩

theorem Kept.outstanding_eq_zero (h : Kept d) {w : ω} (hw : d.slot w = none) : d.outstanding w = 0 := by
  refine List.countP_eq_zero.2 fun t ht => ?_
  have hs := h.registered t ht
  rw [decide_eq_true_eq]
  rintro rfl
  rw [hw] at hs
  cases hs

/-- Closing a request counts its worker's slot down by one. -/
theorem Kept.close (h : Kept d) {t : Ticket ω} {f : Slot → Slot} {d' : Desk ω} (hc : Closes d t f d') : Kept d' := by
  constructor
  · intro u hu
    rw [hc.live] at hu
    exact hc.isSome_slot (h.registered u (List.mem_of_mem_erase hu)) (h.registered t hc.mem)
  · intro w σ hσ
    rw [hc.outstanding]
    by_cases hw : w = t.worker
    · subst hw
      obtain ⟨σ₀, hσ₀, rfl⟩ := hc.slot_self hσ
      rw [hc.pending, h.pending _ _ hσ₀, if_pos rfl]
    · rw [hc.slot_ne hw] at hσ
      rw [h.pending w σ hσ, if_neg (Ne.symm hw), Nat.sub_zero]

/-- Without another registration of a worker, its slot keeps counting its requests. -/
theorem Kept.step (h : Kept d) {a : Act ω} (hen : d.Enabled a) (hok : d.Settled a) : Kept (d.step n a) := by
  cases a with
  | register w =>
    refine ⟨fun t ht => isSome_update (h.registered t ht) fun _ => rfl, fun v σ hσ => ?_⟩
    rcases slot_register_cases hσ with ⟨rfl, rfl⟩ | ⟨-, hσ⟩
    · exact (h.outstanding_eq_zero hok).symm
    · exact h.pending v σ hσ
  | unregister w => exact absurd hok id
  | enter w =>
    refine ⟨registered_enter h.registered hen, fun v σ hσ => ?_⟩
    rw [outstanding_enter]
    rcases slot_enter_cases hσ with ⟨rfl, σ₀, hσ₀, rfl⟩ | ⟨hne, hσ⟩
    · rw [if_pos rfl, ← h.pending _ _ hσ₀]
      rfl
    · rw [if_neg hne, h.pending v σ hσ, Nat.add_zero]
  | finish t => exact h.close (closes_finish hen)
  | free t => exact h.close (closes_free hen)
  | skip => exact h

theorem sum_indicator (v : ω) : ∀ {ws : List ω}, ws.Nodup → v ∈ ws → (ws.map fun w => if v = w then 1 else 0).sum = 1
  | w :: ws, hn, hv => by
    rw [List.nodup_cons] at hn
    rw [List.map_cons, List.sum_cons]
    by_cases h : v = w
    · have hzero : ws.map (fun w => if v = w then 1 else 0) = ws.map fun _ => 0 := by
        refine List.map_congr_left fun u hu => if_neg ?_
        rintro rfl
        exact hn.1 (h ▸ hu)
      rw [if_pos h, hzero, List.map_const', List.sum_replicate]
      simp
    · rw [if_neg h, sum_indicator v hn.2 ((List.mem_cons.1 hv).resolve_left h)]

/-- Counted worker by worker, the requests in flight are all of them. -/
theorem sum_outstanding {ws : List ω} (hn : ws.Nodup) : ∀ {ts : List (Ticket ω)}, (∀ t ∈ ts, t.worker ∈ ws) →
    (ws.map fun w => ts.countP fun t => t.worker = w).sum = ts.length
  | [], _ => by simp
  | t :: ts, h => by
    have ih := sum_outstanding hn fun u hu => h u (List.mem_cons_of_mem _ hu)
    have hone := sum_indicator t.worker hn (h t (List.mem_cons_self ..))
    simp only [List.countP_cons, decide_eq_true_eq, List.sum_map_add]
    rw [ih, hone, List.length_cons]

/-! ## Registrations -/

/-- No slot counts more requests than its registration admitted. -/
structure Fair (d : Desk ω) : Prop where
  registered : ∀ t ∈ d.live, (d.slot t.worker).isSome
  generation : ∀ t ∈ d.live, t.generation ≤ d.generation t.worker
  pending : ∀ w σ, d.slot w = some σ → σ.pending ≤ d.current w

/-- Every slot counts at least the requests its registration admitted. -/
def Covered (d : Desk ω) : Prop := ∀ w σ, d.slot w = some σ → d.current w ≤ σ.pending

/-- A request is closed after another registration of its worker only while none is in flight that
the new registration admitted. -/
def Untangled (d : Desk ω) : Act ω → Prop
  | .finish t | .free t => t.generation = d.generation t.worker ∨ d.current t.worker = 0
  | .register _ | .unregister _ | .enter _ | .skip => True

theorem Fair.init : Fair (init : Desk ω) :=
  ⟨fun _ h => absurd h List.not_mem_nil, fun _ h => absurd h List.not_mem_nil, fun _ _ h => nomatch h⟩

theorem Covered.init : Covered (init : Desk ω) := fun _ _ h => nomatch h

theorem current_enter (w v : ω) : (d.step n (.enter w)).current v = d.current v + if w = v then 1 else 0 := by
  simp only [current, step, List.countP_append, List.countP_singleton, ticket]
  congr 1
  by_cases h : w = v
  · subst h; simp
  · simp [h]

/-- A new registration has admitted nothing yet. -/
theorem Fair.current_register (h : Fair d) (w v : ω) :
    (d.step n (.register w)).current v = if v = w then 0 else d.current v := by
  split
  · rename_i he
    subst he
    refine List.countP_eq_zero.2 fun t ht => ?_
    rw [decide_eq_true_eq]
    rintro ⟨rfl, hg⟩
    have hle := h.generation t ht
    simp only [step, Function.update_self] at hg
    omega
  · rename_i hne
    refine List.countP_congr fun t _ => ?_
    simp [step, Function.update_of_ne hne]

theorem Fair.register (h : Fair d) (w : ω) : Fair (d.step n (.register w)) := by
  refine ⟨fun t ht => isSome_update (h.registered t ht) fun _ => rfl, fun t ht => ?_, fun v σ hσ => ?_⟩
  · apply Nat.le_trans (h.generation t ht)
    simp only [step, Function.update_apply]
    split
    · rename_i he; rw [he]; omega
    · exact Nat.le_refl _
  · rw [h.current_register]
    rcases slot_register_cases hσ with ⟨rfl, rfl⟩ | ⟨hne, hσ⟩
    · exact Nat.zero_le _
    · rw [if_neg (Ne.symm hne)]
      exact h.pending v σ hσ

theorem Fair.enter (h : Fair d) {w : ω} (hw : (d.slot w).isSome) : Fair (d.step n (.enter w)) := by
  refine ⟨registered_enter h.registered hw, fun t ht => ?_, fun v σ hσ => ?_⟩
  · rcases List.mem_append.1 ht with ht | ht
    · exact h.generation t ht
    · rw [List.mem_singleton.1 ht]
      exact Nat.le_refl _
  · rw [current_enter]
    rcases slot_enter_cases hσ with ⟨rfl, σ₀, hσ₀, rfl⟩ | ⟨hne, hσ⟩
    · rw [if_pos rfl]
      exact Nat.succ_le_succ (h.pending _ _ hσ₀)
    · rw [if_neg hne]
      exact h.pending v σ hσ

variable {t : Ticket ω} {f : Slot → Slot} {d' : Desk ω}

theorem Fair.close (h : Fair d) (hc : Closes d t f d') : Fair d' := by
  refine ⟨fun u hu => ?_, fun u hu => ?_, fun w σ hσ => ?_⟩
  · rw [hc.live] at hu
    exact hc.isSome_slot (h.registered u (List.mem_of_mem_erase hu)) (h.registered t hc.mem)
  · rw [hc.live] at hu
    rw [hc.generation]
    exact h.generation u (List.mem_of_mem_erase hu)
  · rw [hc.current]
    by_cases hw : w = t.worker
    · subst hw
      obtain ⟨σ₀, hσ₀, rfl⟩ := hc.slot_self hσ
      have hle := h.pending _ _ hσ₀
      rw [hc.pending]
      split <;> omega
    · rw [if_neg fun he => hw he.1.symm]
      rw [hc.slot_ne hw] at hσ
      exact h.pending w σ hσ

/-- Closing a request keeps the slots covering exactly when it is the registration's own, or the
registration has none in flight. -/
theorem Covered.close_iff (hf : Fair d) (h : Covered d) (hc : Closes d t f d') :
    Covered d' ↔ (t.generation = d.generation t.worker ∨ d.current t.worker = 0) := by
  obtain ⟨σ₀, hσ₀⟩ := Option.isSome_iff_exists.1 (hf.registered t hc.mem)
  have hσ' : d'.slot t.worker = some (f σ₀) := by rw [hc.slot, Function.update_self, hσ₀]; rfl
  have hle : σ₀.pending ≤ d.current t.worker := hf.pending _ _ hσ₀
  have hge : d.current t.worker ≤ σ₀.pending := h _ _ hσ₀
  constructor
  · intro hcov
    by_contra hn
    obtain ⟨hgen, hcur⟩ := not_or.1 hn
    have hnext := hcov _ _ hσ'
    rw [hc.current, hc.pending, if_neg fun he => hgen he.2] at hnext
    omega
  · intro hg w σ hσ
    rw [hc.current]
    by_cases hw : w = t.worker
    · subst hw
      rw [hσ'] at hσ
      cases hσ
      rw [hc.pending]
      rcases hg with hg | hg
      · rw [if_pos ⟨rfl, hg⟩]; omega
      · omega
    · rw [if_neg fun he => hw he.1.symm]
      rw [hc.slot_ne hw] at hσ
      exact h w σ hσ

/-- Workers are registered, again or not, but never taken out. -/
def Staying : Act ω → Prop
  | .unregister _ => False
  | _ => True

theorem Fair.step (h : Fair d) {a : Act ω} (hen : d.Enabled a) (hok : Staying a) : Fair (d.step n a) := by
  cases a with
  | register w => exact h.register w
  | unregister w => exact absurd hok id
  | enter w => exact h.enter hen
  | finish t => exact h.close (closes_finish hen)
  | free t => exact h.close (closes_free hen)
  | skip => exact h

theorem covered_step_iff (hf : Fair d) (h : Covered d) {a : Act ω} (hen : d.Enabled a) (hok : Staying a) :
    Covered (d.step n a) ↔ d.Untangled a := by
  cases a with
  | register w =>
    refine iff_of_true (fun v σ hσ => ?_) trivial
    rw [hf.current_register]
    rcases slot_register_cases hσ with ⟨rfl, rfl⟩ | ⟨hne, hσ⟩
    · rw [if_pos rfl]
      exact Nat.zero_le _
    · rw [if_neg (Ne.symm hne)]
      exact h v σ hσ
  | unregister w => exact absurd hok id
  | enter w =>
    refine iff_of_true (fun v σ hσ => ?_) trivial
    rw [current_enter]
    rcases slot_enter_cases hσ with ⟨rfl, σ₀, hσ₀, rfl⟩ | ⟨hne, hσ⟩
    · rw [if_pos rfl]
      exact Nat.succ_le_succ (h _ _ hσ₀)
    · rw [if_neg hne]
      exact h v σ hσ
  | finish t => exact Covered.close_iff hf h (closes_finish hen)
  | free t => exact Covered.close_iff hf h (closes_free hen)
  | skip => exact iff_of_true h trivial

end Desk

end Effect
