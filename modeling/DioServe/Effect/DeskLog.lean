/-
What the logs of a desk say about its requests. A log has one depth for each request in flight as
long as every close takes one off. The depth a close takes is that of the oldest admission no close
has read: its own request's when requests also finish in the order of their admission. Admitted one at
a time, no request is noted deeper than one.
-/
import DioServe.Effect.Desk

namespace Effect.Desk

open Data

variable {ω : Type} [DecidableEq ω] {n : Nat} {d : Desk ω}

/-- No worker has more than `n` requests in flight. -/
def Bounded (n : Nat) (d : Desk ω) : Prop := ∀ w, d.outstanding w ≤ n

/-- Every close takes a depth off the log. -/
def Reading : Act ω → Prop
  | .free _ => False
  | .register _ | .unregister _ | .enter _ | .finish _ | .skip => True

/-! ## The length of a log -/

/-- Each log has one depth for every request counted. -/
def InStep (d : Desk ω) : Prop := ∀ w σ, d.slot w = some σ → σ.log.length = σ.pending

omit [DecidableEq ω] in
theorem InStep.init : InStep (init : Desk ω) := fun _ _ h => nomatch h

theorem InStep.free_iff_false (hk : Kept d) (h : InStep d) {t : Ticket ω} (ht : t ∈ d.live) :
    ¬ InStep (d.step n (.free t)) := by
  intro hs
  obtain ⟨σ, hσ⟩ := Option.isSome_iff_exists.1 (hk.registered t ht)
  have hσ' : (d.step n (.free t)).slot t.worker = some σ.free := by
    rw [(closes_free ht).slot, Function.update_self, hσ]; rfl
  have hlen : σ.log.length = σ.pending - 1 := hs _ _ hσ'
  have hpos : 0 < σ.pending := by rw [hk.pending _ _ hσ]; exact outstanding_pos ht
  rw [h _ _ hσ] at hlen
  omega

/-- The logs stay in step exactly with the acts that do not close a request unread. -/
theorem inStep_step_iff (hk : Kept d) (h : InStep d) {a : Act ω} (hen : d.Enabled a) (hok : d.Settled a)
    (hb : Bounded n (d.step n a)) : InStep (d.step n a) ↔ Reading a := by
  cases a with
  | register w =>
    refine iff_of_true (fun v σ hσ => ?_) trivial
    rcases slot_register_cases hσ with ⟨rfl, rfl⟩ | ⟨-, hσ⟩
    · rfl
    · exact h v σ hσ
  | unregister w => exact absurd hok id
  | enter w =>
    refine iff_of_true (fun v σ hσ => ?_) trivial
    rcases slot_enter_cases hσ with ⟨rfl, σ₀, hσ₀, rfl⟩ | ⟨-, hσ⟩
    · have hroom : σ₀.pending + 1 ≤ n := by
        have hle := hb w
        rw [outstanding_enter, if_pos rfl, ← hk.pending _ _ hσ₀] at hle
        exact hle
      show (Deque.push n σ₀.log (σ₀.pending + 1)).length = σ₀.pending + 1
      rw [Deque.length_push, h _ _ hσ₀]
      omega
    · exact h v σ hσ
  | finish t =>
    refine iff_of_true (fun v σ hσ => ?_) trivial
    by_cases hv : v = t.worker
    · subst hv
      obtain ⟨σ₀, hσ₀, rfl⟩ := (closes_finish (n := n) hen).slot_self hσ
      show σ₀.log.tail.length = σ₀.pending - 1
      rw [List.length_tail, h _ _ hσ₀]
    · rw [(closes_finish (n := n) hen).slot_ne hv] at hσ
      exact h v σ hσ
  | free t => exact iff_of_false (h.free_iff_false hk hen) id
  | skip => exact iff_of_true h trivial

/-- A request admitted while its worker was idle, still in flight, and the last admitted there. -/
structure Alone (d : Desk ω) (t : Ticket ω) : Prop where
  live : t ∈ d.live
  depth : t.depth = 1
  last : d.history.find? (fun u => u.worker = t.worker) = some t

/-- The log of a worker with a request alone has just that request's depth. -/
def NotesAlone (d : Desk ω) : Prop := ∀ t, Alone d t → ∀ σ, d.slot t.worker = some σ → σ.log = [1]

theorem find?_enter (w v : ω) : (d.step n (.enter w)).history.find? (fun u => u.worker = v) =
    if w = v then some (d.ticket w) else d.history.find? fun u => u.worker = v := by
  have hw : (d.ticket w).worker = w := rfl
  show (d.ticket w :: d.history).find? _ = _
  rw [List.find?_cons, hw]
  by_cases h : w = v <;> simp [h]

theorem NotesAlone.init : NotesAlone (init : Desk ω) := fun _ h => absurd h.live List.not_mem_nil

theorem NotesAlone.step (hk : Kept d) (hs : InStep d) (h : NotesAlone d) {a : Act ω} (hen : d.Enabled a)
    (hok : d.Settled a) (hr : Reading a) (hn : 0 < n) : NotesAlone (d.step n a) := by
  cases a with
  | register w =>
    intro t ht σ hσ
    rcases slot_register_cases hσ with ⟨rfl, rfl⟩ | ⟨-, hσ⟩
    · have hreg := hk.registered t ht.live
      -- a worker with a request in flight is registered already
      rw [show d.slot t.worker = none from hok] at hreg
      cases hreg
    · exact h t ⟨ht.live, ht.depth, ht.last⟩ σ hσ
  | unregister w => exact absurd hok id
  | enter w =>
    intro t ht σ hσ
    rcases slot_enter_cases hσ with ⟨hw, σ₀, hσ₀, rfl⟩ | ⟨hne, hσ⟩
    · -- the request alone is the new one, so the slot was idle
      have hlast : d.ticket w = t := by
        have hfind := ht.last
        rw [find?_enter, if_pos hw] at hfind
        exact Option.some.inj hfind
      have hidle : d.outstanding w = 0 := by
        have hd := ht.depth
        rw [← hlast] at hd
        exact Nat.succ.inj hd
      have hp : σ₀.pending = 0 := by rw [hk.pending _ _ hσ₀, ← hw]; exact hidle
      have hlog : σ₀.log = [] := List.eq_nil_of_length_eq_zero (by rw [hs _ _ hσ₀, hp])
      show Deque.push n σ₀.log (σ₀.pending + 1) = [1]
      rw [Deque.push_of_lt (by rw [hlog]; exact hn), hlog, hp]
      rfl
    · have hlast := ht.last
      rw [find?_enter, if_neg hne] at hlast
      refine h t ⟨?_, ht.depth, hlast⟩ σ hσ
      rcases List.mem_append.1 ht.live with hm | hm
      · exact hm
      · rw [List.mem_singleton.1 hm] at hne
        exact absurd rfl hne
  | finish u =>
    intro t ht σ hσ
    have hold : Alone d t := ⟨List.mem_of_mem_erase ht.live, ht.depth, ht.last⟩
    by_cases hw : t.worker = u.worker
    · -- with one request on the worker, the closed one would be the one alone
      obtain ⟨σ₀, hσ₀, rfl⟩ := (closes_finish (n := n) hen).slot_self (by rw [← hw]; exact hσ)
      have hlog : σ₀.log = [1] := h t hold σ₀ (by rw [hw]; exact hσ₀)
      have hone : d.outstanding u.worker = 1 := by
        rw [← hk.pending _ _ hσ₀, ← hs _ _ hσ₀, hlog]; rfl
      have hpos : 0 < (d.step n (.finish u)).outstanding t.worker := outstanding_pos ht.live
      rw [(closes_finish hen).outstanding, hw, hone, if_pos rfl] at hpos
      exact absurd hpos (Nat.lt_irrefl 0)
    · rw [(closes_finish (n := n) hen).slot_ne hw] at hσ
      exact h t hold σ hσ
  | free u => exact absurd hr id
  | skip => exact h

/-! ## The depths in a log -/

/-- Each log has the depths of the admissions not yet read, and no request in flight is missing. -/
structure Noted (d : Desk ω) : Prop where
  log : ∀ w σ, d.slot w = some σ → σ.log = (d.unread w).map (·.depth)
  length : ∀ w, d.outstanding w ≤ (d.unread w).length

theorem Noted.init : Noted (init : Desk ω) := ⟨fun _ _ h => (nomatch h), fun _ => Nat.zero_le _⟩

theorem unread_enter (w v : ω) :
    (d.step n (.enter w)).unread v = if w = v then Deque.push n (d.unread v) (d.ticket v) else d.unread v := by
  simp only [step, Function.update_apply, eq_comm (a := v)]
  split
  · rename_i he; rw [he]
  · rfl

theorem unread_finish (t : Ticket ω) (v : ω) :
    (d.step n (.finish t)).unread v = if t.worker = v then (d.unread v).tail else d.unread v := by
  simp only [step, Function.update_apply, eq_comm (a := v)]
  split
  · rename_i he; rw [he]
  · rfl

theorem unread_register (w v : ω) :
    (d.step n (.register w)).unread v = if w = v then [] else d.unread v := by
  simp only [step, Function.update_apply, eq_comm (a := v)]

theorem Noted.step (hk : Kept d) (h : Noted d) {a : Act ω} (hen : d.Enabled a) (hok : d.Settled a)
    (hb : Bounded n (d.step n a)) : Noted (d.step n a) := by
  cases a with
  | register w =>
    constructor
    · intro v σ hσ
      rw [unread_register]
      rcases slot_register_cases hσ with ⟨rfl, rfl⟩ | ⟨hne, hσ⟩
      · rw [if_pos rfl]; rfl
      · rw [if_neg hne]; exact h.log v σ hσ
    · intro v
      rw [unread_register]
      show d.outstanding v ≤ _
      split
      · rename_i he
        subst he
        rw [hk.outstanding_eq_zero hok]
        exact Nat.zero_le _
      · exact h.length v
  | unregister w => exact absurd hok id
  | enter w =>
    constructor
    · intro v σ hσ
      rw [unread_enter]
      rcases slot_enter_cases hσ with ⟨rfl, σ₀, hσ₀, rfl⟩ | ⟨hne, hσ⟩
      -- the depth noted is the ticket's: the slot counts the outstanding
      · rw [if_pos rfl, Deque.map_push, ← h.log _ _ hσ₀]
        show Deque.push n σ₀.log (σ₀.pending + 1) = Deque.push n σ₀.log (d.outstanding w + 1)
        rw [hk.pending _ _ hσ₀]
      · rw [if_neg hne]; exact h.log v σ hσ
    · intro v
      have hle := hb v
      have hlen := h.length v
      rw [unread_enter]
      rw [outstanding_enter] at hle ⊢
      split
      · rename_i he
        rw [if_pos he] at hle
        -- a full log drops an entry, but at most n requests are outstanding
        rw [Deque.length_push]
        omega
      · exact hlen
  | finish t =>
    constructor
    · intro v σ hσ
      rw [unread_finish]
      by_cases hv : v = t.worker
      · subst hv
        obtain ⟨σ₀, hσ₀, rfl⟩ := (closes_finish (n := n) hen).slot_self hσ
        rw [if_pos rfl, List.map_tail, ← h.log _ _ hσ₀]
        rfl
      · rw [(closes_finish (n := n) hen).slot_ne hv] at hσ
        rw [if_neg (Ne.symm hv)]
        exact h.log v σ hσ
    · intro v
      have hlen := h.length v
      rw [unread_finish, (closes_finish hen).outstanding]
      split
      -- one request and one entry fewer
      · rw [List.length_tail]; omega
      · exact hlen
  | free t =>
    constructor
    · intro v σ hσ
      by_cases hv : v = t.worker
      · subst hv
        obtain ⟨σ₀, hσ₀, rfl⟩ := (closes_free (n := n) hen).slot_self hσ
        exact h.log _ σ₀ hσ₀
      · rw [(closes_free (n := n) hen).slot_ne hv] at hσ
        exact h.log v σ hσ
    -- a release takes a request but no entry
    · intro v
      have hlen := h.length v
      rw [(closes_free hen).outstanding]
      exact Nat.le_trans (Nat.sub_le _ _) hlen
  | skip => exact h

/-- What a close of a request in flight takes off the log: the depth of the oldest unread admission. -/
theorem Noted.head_eq_iff (h : Noted d) {t : Ticket ω} (ht : t ∈ d.live) {σ : Slot} (hσ : d.slot t.worker = some σ)
    (x : Nat) : σ.log.headD x = t.depth ↔ ∃ u, (d.unread t.worker).head? = some u ∧ u.depth = t.depth := by
  have hne : 0 < (d.unread t.worker).length := Nat.lt_of_lt_of_le (outstanding_pos ht) (h.length _)
  obtain ⟨u, us, hu⟩ := List.exists_cons_of_length_pos hne
  rw [h.log _ _ hσ, hu]
  simp

/-! ## First in, first out -/

/-- Requests of a worker are finished in the order of their admission. -/
def InOrder (d : Desk ω) : Act ω → Prop
  | .finish t => d.live.find? (fun u => u.worker = t.worker) = some t
  | .free _ => False
  | .register _ | .unregister _ | .enter _ | .skip => True

/-- The requests in flight are those not yet read, in order. -/
def Queued (d : Desk ω) : Prop := ∀ w, d.unread w = d.live.filter fun t => t.worker = w

theorem Queued.init : Queued (init : Desk ω) := fun _ => rfl

theorem length_filter_live (w : ω) : (d.live.filter fun t => t.worker = w).length = d.outstanding w :=
  (List.countP_eq_length_filter).symm

theorem Queued.step (hk : Kept d) (h : Queued d) {a : Act ω} (hok : d.Settled a) (ho : d.InOrder a)
    (hb : Bounded n (d.step n a)) : Queued (d.step n a) := by
  intro v
  cases a with
  | register w =>
    rw [unread_register]
    show _ = d.live.filter _
    split
    · rename_i he
      subst he
      refine (List.eq_nil_of_length_eq_zero ?_).symm
      rw [length_filter_live, hk.outstanding_eq_zero hok]
    · exact h v
  | unregister w => exact absurd hok id
  | enter w =>
    have hlive : (d.step n (.enter w)).live = d.live ++ [d.ticket w] := rfl
    rw [unread_enter, hlive, List.filter_append, ← h v]
    split
    · rename_i he
      subst he
      have hroom : (d.unread w).length < n := by
        have hle := hb w
        rw [outstanding_enter, if_pos rfl] at hle
        rw [h w, length_filter_live]
        exact hle
      rw [Deque.push_of_lt hroom]
      simp [ticket]
    · rename_i hne
      simp [ticket, hne]
  | finish t =>
    have hlive : (d.step n (.finish t)).live = d.live.erase t := rfl
    rw [unread_finish, hlive, h v, ← List.erase_filter]
    split
    · rename_i he
      subst he
      -- the one closed is the worker's oldest
      have hhead : (d.live.filter fun u => u.worker = t.worker).head? = some t := by
        rw [List.head?_filter]; exact ho
      obtain ⟨us, hus⟩ := List.head?_eq_some_iff.1 hhead
      rw [hus]
      simp
    · rename_i hne
      refine (List.erase_of_not_mem fun hm => ?_).symm
      exact hne (by simpa using (List.mem_filter.1 hm).2)
  | free t => exact absurd ho id
  | skip => exact h v

/-- In order, a close reads its own request's admission. -/
theorem Queued.head (h : Queued d) {t : Ticket ω} (ho : d.InOrder (.finish t)) :
    (d.unread t.worker).head? = some t := by
  rw [h, List.head?_filter]
  exact ho

/-! ## One request at a time -/

/-- A request is admitted only while none is in flight. -/
def OneByOne (d : Desk ω) : Act ω → Prop
  | .enter _ => d.live = []
  | .register _ | .unregister _ | .finish _ | .free _ | .skip => True

/-- No log has a depth above one, and no slot counts more than its requests in flight. -/
def Shallow (d : Desk ω) : Prop := ∀ w σ, d.slot w = some σ → (∀ k ∈ σ.log, k ≤ 1) ∧ σ.pending ≤ d.outstanding w

theorem Shallow.init : Shallow (init : Desk ω) := fun _ _ h => nomatch h

theorem outstanding_erase (t : Ticket ω) (v : ω) :
    (d.live.countP fun u => u.worker = v) - (if t.worker = v then 1 else 0) ≤ (d.live.erase t).countP fun u => u.worker = v := by
  rw [List.countP_erase]
  by_cases hv : t.worker = v
  · simp only [hv, if_true, decide_true, and_true]
    split <;> omega
  · simp [hv]

/-- A close, of a request in flight or not, counts one slot down and deepens no log. -/
theorem Shallow.close (h : Shallow d) {t : Ticket ω} {f : Slot → Slot} {d' : Desk ω}
    (hpending : ∀ σ, (f σ).pending = σ.pending - 1) (hlog : ∀ σ k, k ∈ (f σ).log → k ∈ σ.log)
    (hlive : d'.live = d.live.erase t) (hslot : d'.slot = Function.update d.slot t.worker ((d.slot t.worker).map f)) :
    Shallow d' := by
  intro v σ hσ
  have hle : d.outstanding v - (if t.worker = v then 1 else 0) ≤ d'.outstanding v := by
    unfold outstanding
    rw [hlive]
    exact outstanding_erase t v
  rw [hslot, Function.update_apply] at hσ
  split at hσ
  · rename_i hv
    subst hv
    obtain ⟨σ₀, hσ₀, rfl⟩ := Option.map_eq_some_iff.1 hσ
    obtain ⟨hdepth, hcount⟩ := h _ σ₀ hσ₀
    refine ⟨fun k hk => hdepth k (hlog σ₀ k hk), ?_⟩
    rw [if_pos rfl] at hle
    rw [hpending]
    omega
  · rename_i hv
    obtain ⟨hdepth, hcount⟩ := h v σ hσ
    rw [if_neg (Ne.symm hv)] at hle
    exact ⟨hdepth, by omega⟩

/-- Admitted one by one, requests are noted at depth one. -/
theorem Shallow.step (h : Shallow d) {a : Act ω} (ho : d.OneByOne a) : Shallow (d.step n a) := by
  cases a with
  | register w =>
    intro v σ hσ
    rcases slot_register_cases hσ with ⟨rfl, rfl⟩ | ⟨-, hσ⟩
    · exact ⟨nofun, Nat.zero_le _⟩
    · exact h v σ hσ
  | unregister w =>
    intro v σ hσ
    simp only [Desk.step, Function.update_apply] at hσ
    split at hσ
    · cases hσ
    · exact h v σ hσ
  | enter w =>
    intro v σ hσ
    rw [outstanding_enter]
    rcases slot_enter_cases hσ with ⟨rfl, σ₀, hσ₀, rfl⟩ | ⟨hne, hσ⟩
    · obtain ⟨hdepth, hcount⟩ := h _ σ₀ hσ₀
      have hidle : d.outstanding w = 0 := by
        have hlive : d.live = [] := ho
        rw [outstanding, hlive]
        rfl
      refine ⟨fun k hk => ?_, by rw [if_pos rfl]; exact Nat.succ_le_succ hcount⟩
      rcases List.mem_append.1 (List.mem_of_mem_drop hk) with hk | hk
      · exact hdepth k hk
      · -- nothing was in flight: the new depth is one
        rw [List.mem_singleton.1 hk]
        omega
    · obtain ⟨hdepth, hcount⟩ := h v σ hσ
      exact ⟨hdepth, by rw [if_neg hne]; exact hcount⟩
  | finish t => exact h.close (f := Slot.finish) (fun _ => rfl) (fun _ _ hk => List.mem_of_mem_tail hk) rfl rfl
  | free t => exact h.close (f := Slot.free) (fun _ => rfl) (fun _ _ hk => hk) rfl rfl
  | skip => exact h

end Effect.Desk
