/-
Effectful programs as interaction trees with exceptions: a program performs operations of a
signature, each answered by its environment, and ends with a value or an exception. `Exec p t x`
says that `p` can end as `x` after the events `t`; the rules below take an execution apart along
the program text (`bind`, `attempt`, loops), so that a statement about every execution of a
program is proved phase by phase.
-/
import Mathlib.Data.List.Basic
import Mathlib.Tactic.Common

namespace Effect

/-! ## Programs -/

/-- The operations a program may perform and what each may be answered with. -/
structure Sig where
  Op : Type
  Res : Op → Type

/-- An operation with its answer. -/
structure Event (S : Sig) where
  op : S.Op
  res : S.Res op

/-- A program over `S` raising exceptions in `ε`. -/
inductive Prog (S : Sig) (ε α : Type) : Type
  | ret (a : α)
  | raise (e : ε)
  | perform (o : S.Op) (k : S.Res o → Prog S ε α)

namespace Prog

variable {S : Sig} {ε α β : Type}

def bind : Prog S ε α → (α → Prog S ε β) → Prog S ε β
  | ret a, f => f a
  | raise e, _ => raise e
  | perform o k, f => perform o fun r => (k r).bind f

instance : Monad (Prog S ε) where
  pure := ret
  bind := bind

/-- Perform one operation and return its answer. -/
def call (o : S.Op) : Prog S ε (S.Res o) := perform o ret

/-- Run `p` and reify its outcome (the `try` of `try / except / finally`). -/
def attempt : Prog S ε α → Prog S ε (Except ε α)
  | ret a => ret (.ok a)
  | raise e => ret (.error e)
  | perform o k => perform o fun r => (k r).attempt

/-- Lift a pure fallible computation. -/
def ofExcept : Except ε α → Prog S ε α
  | .ok a => ret a
  | .error e => raise e

/-- Perform one operation and read its answer as a value or an exception. -/
def ask (o : S.Op) (f : S.Res o → Except ε α) : Prog S ε α := perform o fun r => ofExcept (f r)

/-- Run `f` on each element in order. -/
def forEach (f : β → Prog S ε Unit) : List β → Prog S ε Unit
  | [] => ret ()
  | x :: xs => (f x).bind fun _ => forEach f xs

theorem bind_assoc {γ : Type} (p : Prog S ε α) (f : α → Prog S ε β) (g : β → Prog S ε γ) :
    p >>= f >>= g = p >>= fun a => f a >>= g := by
  induction p with
  | ret a => rfl
  | raise e => rfl
  | perform o k ih => exact congrArg (perform o) (funext fun r => ih r)

theorem forEach_append (f : β → Prog S ε Unit) : ∀ xs ys : List β,
    forEach f (xs ++ ys) = forEach f xs >>= fun _ => forEach f ys
  | [], _ => rfl
  | x :: xs, ys => by
    have ih := forEach_append f xs ys
    show (f x >>= fun _ => forEach f (xs ++ ys)) = (f x >>= fun _ => forEach f xs) >>= fun _ => forEach f ys
    rw [bind_assoc, ih]

/-! ## Executions -/

/-- `p` can end as `x` after the events `t`. -/
def Exec : Prog S ε α → List (Event S) → Except ε α → Prop
  | ret a, t, x => t = [] ∧ x = .ok a
  | raise e, t, x => t = [] ∧ x = .error e
  | perform o k, t, x => ∃ r t', t = ⟨o, r⟩ :: t' ∧ Exec (k r) t' x

@[simp] theorem exec_ret (a : α) (t : List (Event S)) (x : Except ε α) :
    Exec (ret a) t x ↔ t = [] ∧ x = .ok a := Iff.rfl

@[simp] theorem exec_raise (e : ε) (t : List (Event S)) (x : Except ε α) :
    Exec (raise e : Prog S ε α) t x ↔ t = [] ∧ x = .error e := Iff.rfl

@[simp] theorem exec_call (o : S.Op) (t : List (Event S)) (x : Except ε (S.Res o)) :
    Exec (call o) t x ↔ ∃ r, t = [⟨o, r⟩] ∧ x = .ok r := by
  constructor
  · rintro ⟨r, t', rfl, rfl, rfl⟩; exact ⟨r, rfl, rfl⟩
  · rintro ⟨r, rfl, rfl⟩; exact ⟨r, [], rfl, rfl, rfl⟩

@[simp] theorem exec_ofExcept (y : Except ε α) (t : List (Event S)) (x : Except ε α) :
    Exec (ofExcept y) t x ↔ t = [] ∧ x = y := by
  cases y <;> rfl

@[simp] theorem exec_ask (o : S.Op) (f : S.Res o → Except ε α) (t : List (Event S)) (x : Except ε α) :
    Exec (ask o f) t x ↔ ∃ r, t = [⟨o, r⟩] ∧ x = f r := by
  constructor
  · rintro ⟨r, t', rfl, h⟩
    obtain ⟨rfl, rfl⟩ := (exec_ofExcept (f r) t' x).1 h
    exact ⟨r, rfl, rfl⟩
  · rintro ⟨r, rfl, rfl⟩
    exact ⟨r, [], rfl, (exec_ofExcept (f r) [] _).2 ⟨rfl, rfl⟩⟩

/-- A sequence ends in its first part's exception, or runs its second part on the first's value. -/
theorem exec_bind (p : Prog S ε α) (f : α → Prog S ε β) :
    ∀ (t : List (Event S)) (x : Except ε β), Exec (p >>= f) t x ↔
      (∃ a t₁ t₂, Exec p t₁ (.ok a) ∧ Exec (f a) t₂ x ∧ t = t₁ ++ t₂) ∨
        (∃ e, Exec p t (.error e) ∧ x = .error e) := by
  induction p with
  | ret a =>
    intro t x
    constructor
    · intro h; exact .inl ⟨a, [], t, ⟨rfl, rfl⟩, h, rfl⟩
    · rintro (⟨a', t₁, t₂, ⟨rfl, ha⟩, h, rfl⟩ | ⟨e, ⟨-, he⟩, -⟩)
      · cases ha; exact h
      · cases he
  | raise e =>
    intro t x
    constructor
    · rintro ⟨rfl, rfl⟩; exact .inr ⟨e, ⟨rfl, rfl⟩, rfl⟩
    · rintro (⟨a, t₁, t₂, ⟨-, ha⟩, -, -⟩ | ⟨e', ⟨rfl, he⟩, rfl⟩)
      · cases ha
      · cases he; exact ⟨rfl, rfl⟩
  | perform o k ih =>
    intro t x
    constructor
    · rintro ⟨r, t', rfl, h⟩
      rcases (ih r t' x).1 h with ⟨a, t₁, t₂, h1, h2, rfl⟩ | ⟨e, h1, rfl⟩
      · exact .inl ⟨a, ⟨o, r⟩ :: t₁, t₂, ⟨r, t₁, rfl, h1⟩, h2, rfl⟩
      · exact .inr ⟨e, ⟨r, t', rfl, h1⟩, rfl⟩
    · rintro (⟨a, t₁, t₂, ⟨r, t', rfl, h1⟩, h2, rfl⟩ | ⟨e, ⟨r, t', rfl, h1⟩, rfl⟩)
      · exact ⟨r, t' ++ t₂, rfl, (ih r _ x).2 (.inl ⟨a, t', t₂, h1, h2, rfl⟩)⟩
      · exact ⟨r, t', rfl, (ih r _ _).2 (.inr ⟨e, h1, rfl⟩)⟩

/-- A sequence that ends with a value ran both of its parts. -/
theorem exec_bind_ok {p : Prog S ε α} {f : α → Prog S ε β} {t : List (Event S)} {b : β} (h : Exec (p >>= f) t (.ok b)) :
    ∃ a t₁ t₂, Exec p t₁ (.ok a) ∧ Exec (f a) t₂ (.ok b) ∧ t = t₁ ++ t₂ := by
  rcases (exec_bind p f t _).1 h with h | ⟨e, -, he⟩
  · exact h
  · cases he

/-- `attempt` never raises: it performs `p`'s events and returns `p`'s outcome. -/
theorem exec_attempt (p : Prog S ε α) :
    ∀ (t : List (Event S)) (x : Except ε (Except ε α)), Exec p.attempt t x ↔ ∃ y, Exec p t y ∧ x = .ok y := by
  induction p with
  | ret a => intro t x; simp [attempt]
  | raise e => intro t x; simp [attempt]
  | perform o k ih =>
    intro t x
    constructor
    · rintro ⟨r, t', rfl, h⟩
      obtain ⟨y, hy, rfl⟩ := (ih r t' x).1 h
      exact ⟨y, ⟨r, t', rfl, hy⟩, rfl⟩
    · rintro ⟨y, ⟨r, t', rfl, hy⟩, rfl⟩
      exact ⟨r, t', rfl, (ih r t' _).2 ⟨y, hy, rfl⟩⟩

theorem exec_call_bind (o : S.Op) (f : S.Res o → Prog S ε β) (t : List (Event S)) (x : Except ε β) :
    Exec (call o >>= f) t x ↔ ∃ r t', t = ⟨o, r⟩ :: t' ∧ Exec (f r) t' x := Iff.rfl

theorem exec_attempt_bind (p : Prog S ε α) (f : Except ε α → Prog S ε β) (t : List (Event S)) (x : Except ε β) :
    Exec (p.attempt >>= f) t x ↔ ∃ y t₁ t₂, Exec p t₁ y ∧ Exec (f y) t₂ x ∧ t = t₁ ++ t₂ := by
  rw [exec_bind]
  constructor
  · rintro (⟨y', t₁, t₂, h1, h2, rfl⟩ | ⟨e, h, -⟩)
    · obtain ⟨y, hy, he⟩ := (exec_attempt p _ _).1 h1
      cases he; exact ⟨y', t₁, t₂, hy, h2, rfl⟩
    · obtain ⟨y, -, he⟩ := (exec_attempt p _ _).1 h; cases he
  · rintro ⟨y, t₁, t₂, h1, h2, rfl⟩
    exact .inl ⟨y, t₁, t₂, (exec_attempt p _ _).2 ⟨y, h1, rfl⟩, h2, rfl⟩

theorem exec_ofExcept_bind (y : Except ε α) (f : α → Prog S ε β) (t : List (Event S)) (x : Except ε β) :
    Exec (ofExcept y >>= f) t x ↔ (∃ a, y = .ok a ∧ Exec (f a) t x) ∨ (∃ e, y = .error e ∧ t = [] ∧ x = .error e) := by
  cases y with
  | ok a =>
    show Exec (f a) t x ↔ _
    simp
  | error e =>
    show (t = [] ∧ x = .error e) ↔ _
    simp

/-! ## Events of every execution -/

/-- Every event of every execution of `p` satisfies `P`. -/
def Only (P : Event S → Prop) (p : Prog S ε α) : Prop := ∀ t x, Exec p t x → ∀ ev ∈ t, P ev

theorem Only.ret {P : Event S → Prop} (a : α) : Only P (ret a : Prog S ε α) := by
  rintro t x ⟨rfl, -⟩ ev hev; cases hev

theorem Only.raise {P : Event S → Prop} (e : ε) : Only P (raise e : Prog S ε α) := by
  rintro t x ⟨rfl, -⟩ ev hev; cases hev

theorem Only.ofExcept {P : Event S → Prop} (y : Except ε α) : Only P (ofExcept y : Prog S ε α) := by
  intro t x h ev hev
  obtain ⟨rfl, -⟩ := (exec_ofExcept y t x).1 h
  cases hev

theorem Only.call {P : Event S → Prop} {o : S.Op} (h : ∀ r, P ⟨o, r⟩) : Only P (call o : Prog S ε (S.Res o)) := by
  intro t x ht ev hev
  obtain ⟨r, rfl, -⟩ := (exec_call o t x).1 ht
  rw [List.mem_singleton.1 hev]; exact h r

theorem Only.ask {P : Event S → Prop} {o : S.Op} {f : S.Res o → Except ε α} (h : ∀ r, P ⟨o, r⟩) :
    Only P (ask o f) := by
  intro t x ht ev hev
  obtain ⟨r, rfl, -⟩ := (exec_ask o f t x).1 ht
  rw [List.mem_singleton.1 hev]; exact h r

theorem Only.bind {P : Event S → Prop} {p : Prog S ε α} {f : α → Prog S ε β} (hp : Only P p)
    (hf : ∀ a, Only P (f a)) : Only P (p >>= f) := by
  intro t x h ev hev
  rcases (exec_bind p f t x).1 h with ⟨a, t₁, t₂, h1, h2, rfl⟩ | ⟨e, h1, -⟩
  · rcases List.mem_append.1 hev with h | h
    · exact hp _ _ h1 ev h
    · exact hf a _ _ h2 ev h
  · exact hp _ _ h1 ev hev

theorem Only.attempt {P : Event S → Prop} {p : Prog S ε α} (hp : Only P p) : Only P p.attempt := by
  intro t x h ev hev
  obtain ⟨y, hy, -⟩ := (exec_attempt p t x).1 h
  exact hp _ _ hy ev hev

theorem Only.forEach {P : Event S → Prop} {f : β → Prog S ε Unit} (hf : ∀ b, Only P (f b)) :
    ∀ xs, Only P (forEach f xs)
  | [] => Only.ret ()
  | x :: xs => Only.bind (hf x) fun _ => Only.forEach hf xs

theorem Only.mono {P Q : Event S → Prop} {p : Prog S ε α} (hp : Only P p) (h : ∀ ev, P ev → Q ev) : Only Q p :=
  fun t x ht ev hev => h ev (hp t x ht ev hev)

/-! ## Programs that never raise -/

/-- Every execution of `p` ends with a value. -/
def NoRaise (p : Prog S ε α) : Prop := ∀ t x, Exec p t x → ∃ a, x = .ok a

theorem NoRaise.ret (a : α) : NoRaise (ret a : Prog S ε α) := fun _ _ h => ⟨a, h.2⟩

theorem NoRaise.call (o : S.Op) : NoRaise (call o : Prog S ε (S.Res o)) := fun t x h => by
  obtain ⟨r, -, rfl⟩ := (exec_call o t x).1 h
  exact ⟨r, rfl⟩

theorem NoRaise.attempt (p : Prog S ε α) : NoRaise p.attempt := fun t x h => by
  obtain ⟨y, -, rfl⟩ := (exec_attempt p t x).1 h
  exact ⟨y, rfl⟩

theorem NoRaise.bind {p : Prog S ε α} {f : α → Prog S ε β} (hp : NoRaise p) (hf : ∀ a, NoRaise (f a)) :
    NoRaise (p >>= f) := by
  intro t x h
  rcases (exec_bind p f t x).1 h with ⟨a, t₁, t₂, -, h2, rfl⟩ | ⟨e, h1, rfl⟩
  · exact hf a _ _ h2
  · obtain ⟨a, ha⟩ := hp _ _ h1; cases ha

/-- A program that never raises hands its value on. -/
theorem NoRaise.exec_bind {p : Prog S ε α} (hp : NoRaise p) {f : α → Prog S ε β} {t : List (Event S)} {x : Except ε β}
    (h : Exec (p >>= f) t x) : ∃ a t₁ t₂, Exec p t₁ (.ok a) ∧ Exec (f a) t₂ x ∧ t = t₁ ++ t₂ := by
  rcases (Prog.exec_bind p f t x).1 h with h | ⟨e, h1, -⟩
  · exact h
  · obtain ⟨a, ha⟩ := hp _ _ h1; cases ha

/-! ## One execution -/

/-- The execution of `p` in an environment that answers each operation one way. -/
def run (env : (o : S.Op) → S.Res o) : Prog S ε α → List (Event S) × Except ε α
  | ret a => ([], .ok a)
  | raise e => ([], .error e)
  | perform o k => (⟨o, env o⟩ :: (run env (k (env o))).1, (run env (k (env o))).2)

theorem exec_run (env : (o : S.Op) → S.Res o) : ∀ p : Prog S ε α, Exec p (run env p).1 (run env p).2
  | ret _ => ⟨rfl, rfl⟩
  | raise _ => ⟨rfl, rfl⟩
  | perform o k => ⟨env o, _, rfl, exec_run env (k (env o))⟩

/-- Its operations are answered by the environment. -/
theorem mem_run (env : (o : S.Op) → S.Res o) : ∀ {p : Prog S ε α} {ev : Event S}, ev ∈ (run env p).1 →
    ev = ⟨ev.op, env ev.op⟩
  | ret _, _, h => by cases h
  | raise _, _, h => by cases h
  | perform o k, ev, h => by
    rcases List.mem_cons.1 h with rfl | h
    · rfl
    · exact mem_run env h

/-- An execution of which what holds of `run` can be said. -/
theorem exists_exec (env : (o : S.Op) → S.Res o) {p : Prog S ε α} (P : List (Event S) → Except ε α → Prop)
    (h : P (run env p).1 (run env p).2) : ∃ t x, Exec p t x ∧ P t x ∧ ∀ ev ∈ t, ev = ⟨ev.op, env ev.op⟩ :=
  ⟨_, _, exec_run env p, h, fun _ => mem_run env⟩

/-- Where the environment answers, a call that was made was made with its answer. -/
theorem exists_answered (P : S.Op → Bool) {env : (o : S.Op) → S.Res o} {t : List (Event S)}
    (henv : ∀ ev ∈ t, ev = ⟨ev.op, env ev.op⟩) (h : (t.any fun ev => P ev.op) = true) : ∃ o, P o = true ∧ ⟨o, env o⟩ ∈ t := by
  obtain ⟨ev, hev, hop⟩ := List.any_eq_true.1 h
  have hmem := hev
  rw [henv ev hev] at hmem
  exact ⟨ev.op, hop, hmem⟩

/-! ## Partial executions -/

/-- `p` becomes `q` after the events `t`. -/
def Steps : Prog S ε α → List (Event S) → Prog S ε α → Prop
  | p, [], q => p = q
  | p, ev :: t, q => ∃ k, p = perform ev.op k ∧ Steps (k ev.res) t q

theorem Steps.refl (p : Prog S ε α) : Steps p [] p := rfl

theorem Steps.snoc : ∀ {p : Prog S ε α} {t : List (Event S)} {o : S.Op} {k : S.Res o → Prog S ε α} (r : S.Res o),
    Steps p t (perform o k) → Steps p (t ++ [⟨o, r⟩]) (k r)
  | _, [], _, k, _, h => ⟨k, h, rfl⟩
  | _, _ :: _, _, _, r, ⟨k', hp, h⟩ => ⟨k', hp, Steps.snoc r h⟩

/-- A program that has stepped to its end has executed. -/
theorem Steps.exec_ret {a : α} : ∀ {p : Prog S ε α} {t : List (Event S)}, Steps p t (ret a) → Exec p t (.ok a)
  | _, [], h => by cases h; exact ⟨rfl, rfl⟩
  | _, _ :: _, ⟨_, hp, h⟩ => by subst hp; exact ⟨_, _, rfl, Steps.exec_ret h⟩

theorem Steps.exec_raise {e : ε} : ∀ {p : Prog S ε α} {t : List (Event S)}, Steps p t (raise e) → Exec p t (.error e)
  | _, [], h => by cases h; exact ⟨rfl, rfl⟩
  | _, _ :: _, ⟨_, hp, h⟩ => by subst hp; exact ⟨_, _, rfl, Steps.exec_raise h⟩

end Prog

end Effect
