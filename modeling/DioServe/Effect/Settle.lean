/-
Obligations of a program: something that must happen exactly once on every way it can end, unless
the environment answers a call in a way that loses it. `weigh` counts the events that settle the
obligation, `lost` holds of the answers that lose it.
-/
import DioServe.Effect.System

namespace Effect

variable {S : Sig} {ε α β : Type}

/-- An obligation: what settles it and what loses it. -/
structure Obligation (S : Sig) where
  weigh : Event S → Nat
  lost : Event S → Prop

namespace Obligation

open Machine

variable (O : Obligation S)

/-! ## Histories -/

/-- Neither settled nor lost. -/
def Quiet (t : List (Event S)) : Prop := weight O.weigh t = 0 ∧ ∀ ev ∈ t, ¬ O.lost ev

/-- Settled once and never lost, or lost and never settled. -/
def Accounted (t : List (Event S)) : Prop :=
  (weight O.weigh t = 1 ∧ ∀ ev ∈ t, ¬ O.lost ev) ∨ (weight O.weigh t = 0 ∧ ∃ ev ∈ t, O.lost ev)

variable {O} {t t' : List (Event S)}

@[simp] theorem quiet_nil : O.Quiet [] := ⟨rfl, by simp⟩

theorem quiet_cons {ev : Event S} (hw : O.weigh ev = 0) (hl : ¬ O.lost ev) (h : O.Quiet t) : O.Quiet (ev :: t) := by
  refine ⟨by simp [hw, h.1], ?_⟩
  intro e he
  rcases List.mem_cons.1 he with rfl | he
  · exact hl
  · exact h.2 e he

theorem quiet_of_forall (h : ∀ ev ∈ t, O.weigh ev = 0 ∧ ¬ O.lost ev) : O.Quiet t :=
  ⟨weight_eq_zero fun ev hev => (h ev hev).1, fun ev hev => (h ev hev).2⟩

theorem Quiet.append (h : O.Quiet t) (h' : O.Quiet t') : O.Quiet (t ++ t') :=
  ⟨by simp [h.1, h'.1], fun ev hev => (List.mem_append.1 hev).elim (h.2 ev) (h'.2 ev)⟩

theorem Quiet.append_accounted (h : O.Quiet t) (h' : O.Accounted t') : O.Accounted (t ++ t') := by
  rcases h' with ⟨hw, hl⟩ | ⟨hw, ev, hev, hl⟩
  · exact .inl ⟨by simp [h.1, hw], fun ev hev => (List.mem_append.1 hev).elim (h.2 ev) (hl ev)⟩
  · exact .inr ⟨by simp [h.1, hw], ev, List.mem_append_right _ hev, hl⟩

theorem Accounted.append_quiet (h : O.Accounted t) (h' : O.Quiet t') : O.Accounted (t ++ t') := by
  rcases h with ⟨hw, hl⟩ | ⟨hw, ev, hev, hl⟩
  · exact .inl ⟨by simp [h'.1, hw], fun ev hev => (List.mem_append.1 hev).elim (hl ev) (h'.2 ev)⟩
  · exact .inr ⟨by simp [h'.1, hw], ev, List.mem_append_left _ hev, hl⟩

/-- One event that settles the obligation. -/
theorem accounted_settle {ev : Event S} (hw : O.weigh ev = 1) (hl : ¬ O.lost ev) : O.Accounted [ev] :=
  .inl ⟨by simp [hw], by simpa using hl⟩

/-- One event that loses it. -/
theorem accounted_lose {ev : Event S} (hw : O.weigh ev = 0) (hl : O.lost ev) : O.Accounted [ev] :=
  .inr ⟨by simp [hw], ev, List.mem_singleton_self ev, hl⟩

/-- An accounted obligation has been settled exactly once unless it was lost. -/
theorem Accounted.weight_eq_one_iff (h : O.Accounted t) : weight O.weigh t = 1 ↔ ∀ ev ∈ t, ¬ O.lost ev := by
  rcases h with ⟨hw, hl⟩ | ⟨hw, ev, hev, hl⟩
  · simp only [hw, true_iff]; exact hl
  · constructor
    · intro h1; omega
    · intro h1; exact absurd hl (h1 ev hev)

/-! ## Programs -/

variable (O)

/-- No execution of `p` settles or loses the obligation. -/
def Idle (p : Prog S ε α) : Prop := Prog.Only (fun ev => O.weigh ev = 0 ∧ ¬ O.lost ev) p

/-- `p` never settles the obligation, and raises one of the exceptions `I` exactly when it loses it. -/
def Tracks (I : ε → Prop) (p : Prog S ε α) : Prop :=
  ∀ t x, p.Exec t x → weight O.weigh t = 0 ∧ ((∃ e, x = .error e ∧ I e) ↔ ∃ ev ∈ t, O.lost ev)

variable {O} {I : ε → Prop}

theorem Idle.quiet {p : Prog S ε α} (h : O.Idle p) {x : Except ε α} (ht : p.Exec t x) : O.Quiet t :=
  quiet_of_forall (h t x ht)

theorem Tracks.ret (a : α) : O.Tracks I (.ret a : Prog S ε α) := by
  rintro t x ⟨rfl, rfl⟩; simp

theorem Tracks.ofExcept {y : Except ε α} (h : ∀ e, y = .error e → ¬ I e) : O.Tracks I (Prog.ofExcept y) := by
  intro t x ht
  obtain ⟨rfl, rfl⟩ := (Prog.exec_ofExcept y t x).1 ht
  refine ⟨rfl, ?_⟩
  simp only [List.not_mem_nil, false_and, exists_false, iff_false, not_exists, not_and]
  exact h

theorem Tracks.ask {o : S.Op} {f : S.Res o → Except ε α} (hw : ∀ r, O.weigh ⟨o, r⟩ = 0)
    (hl : ∀ r, (∃ e, f r = .error e ∧ I e) ↔ O.lost ⟨o, r⟩) : O.Tracks I (Prog.ask o f) := by
  intro t x ht
  obtain ⟨r, rfl, rfl⟩ := (Prog.exec_ask o f t x).1 ht
  exact ⟨by simp [hw], by simpa using hl r⟩

theorem Tracks.bind {p : Prog S ε α} {f : α → Prog S ε β} (hp : O.Tracks I p) (hf : ∀ a, O.Tracks I (f a)) :
    O.Tracks I (p >>= f) := by
  intro t x ht
  rcases (Prog.exec_bind p f t x).1 ht with ⟨a, t₁, t₂, h1, h2, rfl⟩ | ⟨e, h1, rfl⟩
  · obtain ⟨hw1, hl1⟩ := hp _ _ h1
    obtain ⟨hw2, hl2⟩ := hf a _ _ h2
    have hno : ¬ ∃ ev ∈ t₁, O.lost ev := fun h => by
      obtain ⟨e, he, -⟩ := hl1.2 h; cases he
    refine ⟨by simp [hw1, hw2], hl2.trans ?_⟩
    simp only [List.mem_append, or_and_right, exists_or, hno, false_or]
  · obtain ⟨hw1, hl1⟩ := hp _ _ h1
    refine ⟨hw1, Iff.trans ?_ hl1⟩
    simp

theorem Tracks.call {o : S.Op} (hw : ∀ r, O.weigh ⟨o, r⟩ = 0) (hl : ∀ r, ¬ O.lost ⟨o, r⟩) :
    O.Tracks I (Prog.call o : Prog S ε (S.Res o)) := by
  intro t x ht
  obtain ⟨r, rfl, rfl⟩ := (Prog.exec_call o t x).1 ht
  exact ⟨by simp [hw], by simpa using hl r⟩

theorem Tracks.forEach {f : β → Prog S ε Unit} (hf : ∀ b, O.Tracks I (f b)) :
    ∀ xs, O.Tracks I (Prog.forEach f xs)
  | [] => Tracks.ret ()
  | x :: xs => Tracks.bind (hf x) fun _ => Tracks.forEach hf xs

theorem Tracks.quiet_of_ok {p : Prog S ε α} (h : O.Tracks I p) {a : α} (ht : p.Exec t (.ok a)) : O.Quiet t := by
  obtain ⟨hw, hl⟩ := h _ _ ht
  refine ⟨hw, fun ev hev hlost => ?_⟩
  obtain ⟨e, he, -⟩ := hl.2 ⟨ev, hev, hlost⟩
  cases he

/-! ## Programs that account for the obligation -/

variable (O)

/-- Every execution of `p` settles the obligation once, or loses it. -/
def Accounts (p : Prog S ε α) : Prop := ∀ t x, p.Exec t x → O.Accounted t

variable {O}

theorem Accounts.settle {o : S.Op} (h : ∀ r, O.weigh ⟨o, r⟩ = 1 ∧ ¬ O.lost ⟨o, r⟩) :
    O.Accounts (.call o : Prog S ε (S.Res o)) := by
  intro t x ht
  obtain ⟨r, rfl, -⟩ := (Prog.exec_call o t x).1 ht
  exact accounted_settle (h r).1 (h r).2

/-- What comes before the settlement must not raise. -/
theorem Accounts.after {p : Prog S ε α} {f : α → Prog S ε β} (hp : O.Idle p) (hn : p.NoRaise)
    (hf : ∀ a, O.Accounts (f a)) : O.Accounts (p >>= f) := by
  intro t x ht
  obtain ⟨a, t₁, t₂, h1, h2, rfl⟩ := hn.exec_bind ht
  exact (hp.quiet h1).append_accounted (hf a _ _ h2)

/-- What comes after it may. -/
theorem Accounts.before {p : Prog S ε α} {f : α → Prog S ε β} (hp : O.Accounts p) (hf : ∀ a, O.Idle (f a)) :
    O.Accounts (p >>= f) := by
  intro t x ht
  rcases (Prog.exec_bind p f t x).1 ht with ⟨a, t₁, t₂, h1, h2, rfl⟩ | ⟨e, h1, -⟩
  · exact (hp _ _ h1).append_quiet ((hf a).quiet h2)
  · exact hp _ _ h1

/-- A call that raises exactly when its answer loses the obligation. -/
theorem Accounts.ask {o : S.Op} {f : S.Res o → Except ε α} {k : α → Prog S ε β} (hw : ∀ r, O.weigh ⟨o, r⟩ = 0)
    (hl : ∀ r, O.lost ⟨o, r⟩ ↔ ∃ e, f r = .error e) (hk : ∀ a, O.Accounts (k a)) :
    O.Accounts (Prog.ask o f >>= k) := by
  intro t x ht
  rcases (Prog.exec_bind _ _ t x).1 ht with ⟨a, t₁, t₂, h1, h2, rfl⟩ | ⟨e, h1, -⟩
  · obtain ⟨r, rfl, hr⟩ := (Prog.exec_ask o f _ _).1 h1
    have hno : ¬ O.lost ⟨o, r⟩ := fun h => by
      obtain ⟨e, he⟩ := (hl r).1 h
      rw [he] at hr; cases hr
    exact (quiet_cons (hw r) hno quiet_nil).append_accounted (hk a _ _ h2)
  · obtain ⟨r, rfl, hr⟩ := (Prog.exec_ask o f _ _).1 h1
    exact accounted_lose (hw r) ((hl r).2 ⟨e, hr.symm⟩)

end Obligation

end Effect
