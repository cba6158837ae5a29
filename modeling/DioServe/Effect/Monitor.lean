/-
Monitors: machines that watch the events of a program one by one, and have no move for an event out of turn.
`InTurn` says that every execution of a program stays in turn, and where it ends; its rules follow the program text.
-/
import DioServe.Effect.Prog

namespace Effect

/-- A machine over the events of `S`. -/
structure Monitor (S : Sig) (σ : Type) where
  next : σ → Event S → Option σ

namespace Monitor

variable {S : Sig} {σ ε α β : Type} (M : Monitor S σ)

/-! ## Runs -/

/-- Where events lead, when they are all in turn. -/
def run : σ → List (Event S) → Option σ
  | s, [] => some s
  | s, ev :: t => (M.next s ev).bind fun s' => run s' t

theorem run_append : ∀ (t : List (Event S)) (s : σ) (t' : List (Event S)),
    M.run s (t ++ t') = (M.run s t).bind fun s' => M.run s' t'
  | [], _, _ => rfl
  | ev :: t, s, t' => by
    show (M.next s ev).bind (fun s' => M.run s' (t ++ t')) = ((M.next s ev).bind fun s' => M.run s' t).bind _
    cases M.next s ev with
    | none => rfl
    | some s' => exact run_append t s' t'

variable {M}

theorem run_cons {ev : Event S} {s s' : σ} (h : M.next s ev = some s') (t : List (Event S)) :
    M.run s (ev :: t) = M.run s' t := by
  show (M.next s ev).bind _ = _
  rw [h]
  rfl

/-- Events that each use up rank are no more than there was. -/
theorem countP_le_rank {rank : σ → Nat} {p : Event S → Bool}
    (h : ∀ s ev s', M.next s ev = some s' → (if p ev then 1 else 0) + rank s' ≤ rank s) :
    ∀ {t : List (Event S)} {s s' : σ}, M.run s t = some s' → t.countP p + rank s' ≤ rank s
  | [], s, s', hrun => by
    cases hrun
    exact Nat.le_of_eq (Nat.zero_add _)
  | ev :: t, s, s', hrun => by
    obtain ⟨s₁, hnext, hrest⟩ := Option.bind_eq_some_iff.1 hrun
    have htail := countP_le_rank h hrest
    have hhead := h s ev s₁ hnext
    rw [List.countP_cons]
    omega

/-! ## Programs -/

/-- How a program ends: with a value where `Q` says, or with an exception where `E` does. -/
def Ends (Q : α → σ → Prop) (E : ε → σ → Prop) : Except ε α → σ → Prop
  | .ok a, s => Q a s
  | .error e, s => E e s

variable (M)

/-- Every execution of `p` from `s` on is in turn, and ends where `Q` and `E` say. -/
def InTurn (s : σ) (p : Prog S ε α) (Q : α → σ → Prop) (E : ε → σ → Prop) : Prop :=
  ∀ t x, p.Exec t x → ∃ s', M.run s t = some s' ∧ Ends Q E x s'

variable {M} {s : σ} {p : Prog S ε α} {Q : α → σ → Prop} {E : ε → σ → Prop}

theorem InTurn.mono {R : α → σ → Prop} {F : ε → σ → Prop} (h : M.InTurn s p Q E) (hQ : ∀ a s', Q a s' → R a s')
    (hE : ∀ e s', E e s' → F e s') : M.InTurn s p R F := by
  intro t x ht
  obtain ⟨s', hrun, hx⟩ := h t x ht
  refine ⟨s', hrun, ?_⟩
  cases x with
  | ok a => exact hQ a s' hx
  | error e => exact hE e s' hx

theorem InTurn.ret {a : α} (h : Q a s) : M.InTurn s (.ret a : Prog S ε α) Q E := by
  rintro t x ⟨rfl, rfl⟩
  exact ⟨s, rfl, h⟩

theorem InTurn.raise {e : ε} (h : E e s) : M.InTurn s (.raise e : Prog S ε α) Q E := by
  rintro t x ⟨rfl, rfl⟩
  exact ⟨s, rfl, h⟩

theorem InTurn.ofExcept {y : Except ε α} (h : Ends Q E y s) : M.InTurn s (.ofExcept y) Q E := by
  intro t x ht
  obtain ⟨rfl, rfl⟩ := (Prog.exec_ofExcept y t x).1 ht
  exact ⟨s, rfl, h⟩

theorem run_singleton {ev : Event S} {s' : σ} (h : M.next s ev = some s') : M.run s [ev] = some s' := run_cons h []

theorem InTurn.ask {o : S.Op} {f : S.Res o → Except ε α} (h : ∀ r, ∃ s', M.next s ⟨o, r⟩ = some s' ∧ Ends Q E (f r) s') :
    M.InTurn s (.ask o f) Q E := by
  intro t x ht
  obtain ⟨r, rfl, rfl⟩ := (Prog.exec_ask o f t x).1 ht
  obtain ⟨s', hnext, hx⟩ := h r
  exact ⟨s', run_singleton hnext, hx⟩

theorem InTurn.call {o : S.Op} {Q : S.Res o → σ → Prop} (h : ∀ r, ∃ s', M.next s ⟨o, r⟩ = some s' ∧ Q r s') :
    M.InTurn s (.call o : Prog S ε (S.Res o)) Q E := by
  intro t x ht
  obtain ⟨r, rfl, rfl⟩ := (Prog.exec_call o t x).1 ht
  obtain ⟨s', hnext, hx⟩ := h r
  exact ⟨s', run_singleton hnext, hx⟩

theorem InTurn.bind {f : α → Prog S ε β} {R : β → σ → Prop} (hp : M.InTurn s p Q E)
    (hf : ∀ a s', Q a s' → M.InTurn s' (f a) R E) : M.InTurn s (p >>= f) R E := by
  intro t x ht
  rcases (Prog.exec_bind p f t x).1 ht with ⟨a, t₁, t₂, h1, h2, rfl⟩ | ⟨e, h1, rfl⟩
  · obtain ⟨s₁, hrun₁, hQ⟩ := hp _ _ h1
    obtain ⟨s₂, hrun₂, hR⟩ := hf a s₁ hQ _ _ h2
    refine ⟨s₂, ?_, hR⟩
    rw [run_append, hrun₁]
    exact hrun₂
  · obtain ⟨s₁, hrun₁, hE⟩ := hp _ _ h1
    exact ⟨s₁, hrun₁, hE⟩

theorem InTurn.attempt {F : ε → σ → Prop} (hp : M.InTurn s p Q E) : M.InTurn s p.attempt (Ends Q E) F := by
  intro t x ht
  obtain ⟨y, hy, rfl⟩ := (Prog.exec_attempt p t x).1 ht
  obtain ⟨s', hrun, hx⟩ := hp _ _ hy
  exact ⟨s', hrun, hx⟩

/-- A program whose events the monitor takes no notice of in `s`. -/
theorem InTurn.of_only (h : p.Only fun ev => M.next s ev = some s) (hQ : ∀ a, Q a s) (hE : ∀ e, E e s) :
    M.InTurn s p Q E := by
  have hstay : ∀ t : List (Event S), (∀ ev ∈ t, M.next s ev = some s) → M.run s t = some s := by
    intro t
    induction t with
    | nil => exact fun _ => rfl
    | cons ev t ih =>
      intro hall
      rw [run_cons (hall ev List.mem_cons_self)]
      exact ih fun ev' hev' => hall ev' (List.mem_cons_of_mem _ hev')
  intro t x ht
  refine ⟨s, hstay t (h t x ht), ?_⟩
  cases x with
  | ok a => exact hQ a
  | error e => exact hE e

end Monitor

end Effect
