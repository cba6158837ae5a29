/-
Copying: a program that sends its receiver what its other events leave owed, in their order. The monitor keeps the
backlog and lets an item be sent only when it is next; its runs say that at each moment what was sent is the first
part of what was owed, and that a program which always empties its backlog has sent it all.
-/
import DioServe.Effect.Monitor

namespace Effect

/-- What an event leaves owed, what it sends, and whether the receiver is gone after it. -/
structure Copy (S : Sig) (F : Type) where
  owed : Event S → List F
  sent : Event S → Option F
  leaves : Event S → Bool

/-- What is owed and not yet sent. -/
structure Backlog (F : Type) where
  items : List F := []
  gone : Bool := false

/-- Nothing is left to be sent to a receiver that is still there. -/
def Backlog.Settled {F : Type} (s : Backlog F) : Prop := s.gone = true ∨ s.items = []

namespace Copy

variable {S : Sig} {F : Type} (C : Copy S F)

open Classical in
/-- An item is sent in turn: to a receiver that is there, and when it is the first of the backlog. -/
noncomputable def next (s : Backlog F) (ev : Event S) : Option (Backlog F) :=
  match C.sent ev with
  | none => some ⟨s.items ++ C.owed ev, s.gone || C.leaves ev⟩
  | some f => if s.gone = false ∧ s.items.head? = some f then some ⟨s.items.tail ++ C.owed ev, C.leaves ev⟩ else none

noncomputable def monitor : Monitor S (Backlog F) := ⟨C.next⟩

/-- The history is a copy: never ahead of what is owed, complete for a receiver that stays, over for one that leaves. -/
structure Copied (t : List (Event S)) : Prop where
  behind : ∀ t₁, t₁ <+: t → t₁.filterMap C.sent <+: t₁.flatMap C.owed
  whole : (∀ ev ∈ t, C.leaves ev = false) → t.filterMap C.sent = t.flatMap C.owed
  ended : ∀ t₁ ev t₂, t = t₁ ++ ev :: t₂ → C.leaves ev = true → t₂.filterMap C.sent = []

variable {C}

/-- An event that owes and sends nothing. -/
theorem next_quiet {ev : Event S} (howed : C.owed ev = []) (hsent : C.sent ev = none) (hleaves : C.leaves ev = false)
    (s : Backlog F) : C.monitor.next s ev = some s := by
  show C.next s ev = some s
  rw [next, hsent, howed, hleaves, List.append_nil, Bool.or_false]

theorem next_owed {ev : Event S} (hsent : C.sent ev = none) (hleaves : C.leaves ev = false) :
    C.monitor.next {} ev = some { items := C.owed ev } := by
  show C.next {} ev = _
  rw [next, hsent, hleaves]
  rfl

theorem next_sent {ev : Event S} {f : F} (hsent : C.sent ev = some f) (howed : C.owed ev = []) (items : List F) :
    C.monitor.next { items := f :: items } ev = some ⟨items, C.leaves ev⟩ := by
  show C.next _ ev = _
  rw [next, hsent, howed]
  exact (if_pos ⟨rfl, rfl⟩).trans (congrArg (fun l => some (Backlog.mk l (C.leaves ev))) (List.append_nil items))

/-- One event moves items from the backlog to the receiver. -/
theorem next_items {s s' : Backlog F} {ev : Event S} (h : C.next s ev = some s') :
    s.items ++ C.owed ev = (C.sent ev).toList ++ s'.items := by
  unfold next at h
  cases hsent : C.sent ev with
  | none =>
    rw [hsent] at h
    cases h
    rfl
  | some f =>
    rw [hsent] at h
    obtain ⟨⟨-, hhead⟩, hs'⟩ := Option.ite_none_right_eq_some.1 h
    cases hs'
    obtain ⟨rest, hitems⟩ := List.head?_eq_some_iff.1 hhead
    rw [hitems]
    rfl

/-- The receiver leaves with the events that say so, and does not come back. -/
theorem next_gone {s s' : Backlog F} {ev : Event S} (h : C.next s ev = some s') : s'.gone = (s.gone || C.leaves ev) := by
  unfold next at h
  split at h
  · cases h
    rfl
  · obtain ⟨⟨hgone, -⟩, hs'⟩ := Option.ite_none_right_eq_some.1 h
    cases hs'
    rw [hgone]
    rfl

theorem next_of_gone {s s' : Backlog F} {ev : Event S} (h : C.next s ev = some s') (hgone : s.gone = true) :
    C.sent ev = none := by
  unfold next at h
  split at h
  · assumption
  · obtain ⟨⟨hstays, -⟩, -⟩ := Option.ite_none_right_eq_some.1 h
    rw [hgone] at hstays
    cases hstays

theorem run_items : ∀ {t : List (Event S)} {s s' : Backlog F}, C.monitor.run s t = some s' →
    s.items ++ t.flatMap C.owed = t.filterMap C.sent ++ s'.items
  | [], s, s', h => by
    cases h
    exact List.append_nil _
  | ev :: t, s, s', h => by
    obtain ⟨s₁, hnext, hrest⟩ := Option.bind_eq_some_iff.1 h
    have hhead := next_items hnext
    have htail := run_items hrest
    have hsent : (ev :: t).filterMap C.sent = (C.sent ev).toList ++ t.filterMap C.sent := by
      rw [List.filterMap_cons]
      cases C.sent ev <;> rfl
    rw [List.flatMap_cons, hsent, ← List.append_assoc, hhead, List.append_assoc, htail, List.append_assoc]

theorem run_gone : ∀ {t : List (Event S)} {s s' : Backlog F}, C.monitor.run s t = some s' →
    s'.gone = (s.gone || t.any C.leaves)
  | [], s, s', h => by
    cases h
    exact (Bool.or_false _).symm
  | ev :: t, s, s', h => by
    obtain ⟨s₁, hnext, hrest⟩ := Option.bind_eq_some_iff.1 h
    rw [run_gone hrest, next_gone hnext, List.any_cons, Bool.or_assoc]

/-- Nothing is sent to a receiver that is gone. -/
theorem run_of_gone : ∀ {t : List (Event S)} {s s' : Backlog F}, C.monitor.run s t = some s' → s.gone = true →
    t.filterMap C.sent = []
  | [], _, _, _, _ => rfl
  | ev :: t, s, s', h, hgone => by
    obtain ⟨s₁, hnext, hrest⟩ := Option.bind_eq_some_iff.1 h
    have hgone₁ : s₁.gone = true := by
      rw [next_gone hnext, hgone]
      rfl
    rw [List.filterMap_cons, next_of_gone hnext hgone]
    exact run_of_gone hrest hgone₁

/-- A history that stays in turn and settles its backlog is a copy. -/
theorem copied_of_run {t : List (Event S)} {s : Backlog F} (h : C.monitor.run {} t = some s) (hsettled : s.Settled) :
    C.Copied t where
  behind t₁ ht₁ := by
    obtain ⟨t₂, rfl⟩ := ht₁
    rw [Monitor.run_append] at h
    obtain ⟨s₁, hrun, -⟩ := Option.bind_eq_some_iff.1 h
    exact ⟨s₁.items, (run_items hrun).symm⟩
  whole hstays := by
    have hany : t.any C.leaves = false := List.any_eq_false.2 fun ev hev => Bool.not_eq_true _ ▸ hstays ev hev
    have hgone : s.gone = false := by
      rw [run_gone h, hany]
      rfl
    have hitems : s.items = [] := by
      rcases hsettled with hs | hs
      · rw [hgone] at hs
        cases hs
      · exact hs
    have hcopy := run_items h
    rw [hitems, List.append_nil] at hcopy
    exact hcopy.symm
  ended t₁ ev t₂ ht hleaves := by
    subst ht
    rw [Monitor.run_append] at h
    obtain ⟨s₁, -, hrun⟩ := Option.bind_eq_some_iff.1 h
    obtain ⟨s₂, hnext, hrest⟩ := Option.bind_eq_some_iff.1 hrun
    refine run_of_gone hrest ?_
    rw [next_gone hnext, hleaves, Bool.or_true]

variable {ε α β : Type}

/-- A program that owes and sends nothing. -/
def Quiet (C : Copy S F) (p : Prog S ε α) : Prop :=
  p.Only fun ev => C.owed ev = [] ∧ C.sent ev = none ∧ C.leaves ev = false

theorem Quiet.inTurn {p : Prog S ε α} (h : C.Quiet p) {s : Backlog F} {Q : α → Backlog F → Prop}
    {E : ε → Backlog F → Prop} (hQ : ∀ a, Q a s) (hE : ∀ e, E e s) : C.monitor.InTurn s p Q E :=
  .of_only (h.mono fun _ hev => next_quiet hev.1 hev.2.1 hev.2.2 s) hQ hE

/-- The items are sent one by one, until the receiver leaves. -/
theorem inTurn_forEach {f : F → Prog S ε Unit} {E : ε → Backlog F → Prop}
    (hf : ∀ a items, C.monitor.InTurn { items := a :: items } (f a) (fun _ s => s = { items := items }) E) :
    ∀ items : List F, C.monitor.InTurn { items := items } (.forEach f items) (fun _ s => s = {}) E
  | [] => .ret rfl
  | a :: items => Monitor.InTurn.bind (hf a items) fun _ s hs => by
    subst hs
    exact inTurn_forEach hf items

end Copy

end Effect
