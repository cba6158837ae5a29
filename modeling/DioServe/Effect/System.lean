/-
Programs running concurrently over one shared state. A task is a started program with the events
it has performed; a step of the system starts a task, performs the next operation of one task
(shared operations read and write the state, all others are answered by the environment), or
changes the state in the background. `Reach.accounting` is the rule for additive measures: a
quantity of the state that each shared operation raises by its event's weight is, in every state
of every run, the initial quantity plus the weights of all tasks' histories.
-/
import DioServe.Effect.Prog
import Mathlib.Logic.Relation
import Mathlib.Algebra.BigOperators.Group.List.Basic
import Mathlib.Algebra.GroupWithZero.Nat

namespace Effect

/-- What runs: the state transformer of each shared operation (`none`: answered by the
environment), the programs that may be started, and the state changes made by nobody's request. -/
structure Machine (S : Sig) (ε σ : Type) where
  sem : (o : S.Op) → Option (σ → S.Res o × σ)
  handles : Prog S ε Unit → Prop
  background : σ → σ → Prop

/-- A started program, the events it has performed and what remains of it. -/
structure Task (S : Sig) (ε : Type) where
  start : Prog S ε Unit
  hist : List (Event S)
  rest : Prog S ε Unit
  steps : Prog.Steps start hist rest

variable {S : Sig} {ε σ : Type}

/-- A freshly started task. -/
def Task.fresh (p : Prog S ε Unit) : Task S ε := ⟨p, [], p, Prog.Steps.refl p⟩

/-- The task after its next operation `o` was answered with `r`. -/
def Task.advance (t : Task S ε) {o : S.Op} {k : S.Res o → Prog S ε Unit} (h : t.rest = .perform o k)
    (r : S.Res o) : Task S ε :=
  ⟨t.start, t.hist ++ [⟨o, r⟩], k r, (h ▸ t.steps).snoc r⟩

@[simp] theorem Task.advance_hist (t : Task S ε) {o : S.Op} {k : S.Res o → Prog S ε Unit}
    (h : t.rest = .perform o k) (r : S.Res o) : (t.advance h r).hist = t.hist ++ [⟨o, r⟩] := rfl

/-- The task has ended, with `x`. -/
def Task.Ended (t : Task S ε) (x : Except ε Unit) : Prop :=
  t.rest = match x with
    | .ok a => .ret a
    | .error e => .raise e

/-- An ended task's history is an execution of the program it was started with. -/
theorem Task.Ended.exec {t : Task S ε} {x : Except ε Unit} (h : t.Ended x) : t.start.Exec t.hist x := by
  have hs := t.steps
  cases x with
  | ok a => rw [show t.rest = .ret a from h] at hs; exact hs.exec_ret
  | error e => rw [show t.rest = .raise e from h] at hs; exact hs.exec_raise

/-- A configuration: the shared state and the tasks started so far. -/
structure Config (S : Sig) (ε σ : Type) where
  state : σ
  tasks : List (Task S ε)

namespace Machine

/-- One step of the system. -/
inductive Step (M : Machine S ε σ) : Config S ε σ → Config S ε σ → Prop
  | start {c : Config S ε σ} {p : Prog S ε Unit} : M.handles p →
      Step M c ⟨c.state, c.tasks ++ [.fresh p]⟩
  | shared {c : Config S ε σ} {i : Nat} {t : Task S ε} {o : S.Op} {k : S.Res o → Prog S ε Unit}
      {f : σ → S.Res o × σ} : c.tasks[i]? = some t → (h : t.rest = .perform o k) → M.sem o = some f →
      Step M c ⟨(f c.state).2, c.tasks.set i (t.advance h (f c.state).1)⟩
  | answer {c : Config S ε σ} {i : Nat} {t : Task S ε} {o : S.Op} {k : S.Res o → Prog S ε Unit}
      (r : S.Res o) : c.tasks[i]? = some t → (h : t.rest = .perform o k) → M.sem o = none →
      Step M c ⟨c.state, c.tasks.set i (t.advance h r)⟩
  | background {c : Config S ε σ} {s : σ} : M.background c.state s → Step M c ⟨s, c.tasks⟩

/-- The configurations reachable from `s` with no task started. -/
def Reach (M : Machine S ε σ) (s : σ) : Config S ε σ → Prop :=
  Relation.ReflTransGen (Step M) ⟨s, []⟩

variable {M : Machine S ε σ}

/-- A property of configurations that holds initially and is kept by each step holds in every
reachable configuration. -/
theorem Reach.invariant {s : σ} {P : Config S ε σ → Prop} (hinit : P ⟨s, []⟩)
    (hstep : ∀ c c', P c → Step M c c' → P c') {c : Config S ε σ} (h : Reach M s c) : P c := by
  induction h with
  | refl => exact hinit
  | tail _ hs ih => exact hstep _ _ ih hs

/-- A property of tasks that fresh tasks have and advancing keeps holds of every task. -/
theorem Reach.tasks {s : σ} {P : Task S ε → Prop} (hfresh : ∀ p, M.handles p → P (.fresh p))
    (hadv : ∀ (t : Task S ε) {o : S.Op} {k : S.Res o → Prog S ε Unit} (h : t.rest = .perform o k) (r : S.Res o),
      P t → P (t.advance h r)) {c : Config S ε σ} (h : Reach M s c) : ∀ t ∈ c.tasks, P t := by
  refine Reach.invariant (P := fun c => ∀ t ∈ c.tasks, P t) (by simp) ?_ h
  intro c c' hc hs
  cases hs with
  | start hp =>
    intro t ht
    rcases List.mem_append.1 ht with ht | ht
    · exact hc t ht
    · rw [List.mem_singleton.1 ht]; exact hfresh _ hp
  | shared hi hk _ =>
    intro t ht
    rcases List.mem_or_eq_of_mem_set ht with ht | rfl
    · exact hc t ht
    · exact hadv _ hk _ (hc _ (List.mem_of_getElem? hi))
  | answer r hi hk _ =>
    intro t ht
    rcases List.mem_or_eq_of_mem_set ht with ht | rfl
    · exact hc t ht
    · exact hadv _ hk r (hc _ (List.mem_of_getElem? hi))
  | background _ => exact hc

/-- Every task was started with a program the machine handles. -/
theorem Reach.handles {s : σ} {c : Config S ε σ} (h : Reach M s c) : ∀ t ∈ c.tasks, M.handles t.start :=
  Reach.tasks (P := fun t => M.handles t.start) (fun _ hp => hp) (fun _ _ _ _ _ ht => ht) h

/-! ## Accounting -/

/-- The weight of a history. -/
def weight (g : Event S → Nat) (h : List (Event S)) : Nat := (h.map g).sum

@[simp] theorem weight_nil (g : Event S → Nat) : weight g [] = 0 := rfl

@[simp] theorem weight_append (g : Event S → Nat) (h h' : List (Event S)) :
    weight g (h ++ h') = weight g h + weight g h' := by simp [weight]

@[simp] theorem weight_cons (g : Event S → Nat) (ev : Event S) (h : List (Event S)) :
    weight g (ev :: h) = g ev + weight g h := by simp [weight]

theorem weight_eq_zero {g : Event S → Nat} {h : List (Event S)} (hg : ∀ ev ∈ h, g ev = 0) : weight g h = 0 := by
  induction h with
  | nil => rfl
  | cons ev h ih =>
    rw [weight_cons, hg ev (List.mem_cons_self ..), ih fun e he => hg e (List.mem_cons_of_mem _ he)]

/-- The weight of all histories of a task list. -/
def total (g : Event S → Nat) (ts : List (Task S ε)) : Nat := (ts.map fun t => weight g t.hist).sum

theorem total_set (g : Event S → Nat) {t t' : Task S ε} {n : Nat} (hn : weight g t'.hist = weight g t.hist + n) :
    ∀ {ts : List (Task S ε)} {i : Nat}, ts[i]? = some t → total g (ts.set i t') = total g ts + n
  | [], _, h => by simp at h
  | u :: ts, 0, h => by
    simp only [List.getElem?_cons_zero, Option.some.injEq] at h
    subst h
    simp only [total, List.set_cons_zero, List.map_cons, List.sum_cons, hn]
    omega
  | u :: ts, i + 1, h => by
    have ih : total g (ts.set i t') = total g ts + n := total_set g hn (by simpa using h)
    simp only [total, List.set_cons_succ, List.map_cons, List.sum_cons] at ih ⊢
    omega

/-- A quantity raised by each shared operation by its event's weight, and by nothing else, is the
initial quantity plus the weight of all histories. -/
theorem Reach.accounting {s : σ} (f : σ → Nat) (g : Event S → Nat)
    (hshared : ∀ (o : S.Op) (φ : σ → S.Res o × σ) (s : σ), M.sem o = some φ → f (φ s).2 = f s + g ⟨o, (φ s).1⟩)
    (hanswer : ∀ (o : S.Op) (r : S.Res o), M.sem o = none → g ⟨o, r⟩ = 0)
    (hback : ∀ s s', M.background s s' → f s' = f s) {c : Config S ε σ} (h : Reach M s c) :
    f c.state = f s + total g c.tasks := by
  refine Reach.invariant (P := fun c => f c.state = f s + total g c.tasks) (by simp [total]) ?_ h
  intro c c' hc hs
  cases hs with
  | start hp => simpa [total, Task.fresh] using hc
  | @shared i t o k φ hi hk hf =>
    have hw : weight g (t.advance hk (φ c.state).1).hist = weight g t.hist + g ⟨o, (φ c.state).1⟩ := by simp
    rw [total_set g hw hi, hshared _ _ _ hf, hc]; omega
  | @answer i t o k r hi hk hn =>
    have hw : weight g (t.advance hk r).hist = weight g t.hist + 0 := by simp [hanswer o r hn]
    rw [total_set g hw hi]; exact hc
  | background hb => exact (hback _ _ hb).trans hc

/-! ## One task at a time -/

/-- The events of a program that runs to its end while nothing else happens, and the state after it. -/
def solo (M : Machine S ε σ) (env : (o : S.Op) → S.Res o) : Prog S ε Unit → σ → List (Event S) × σ
  | .ret _, s => ([], s)
  | .raise _, s => ([], s)
  | .perform o k, s =>
    match M.sem o with
    | some f => (⟨o, (f s).1⟩ :: (solo M env (k (f s).1) (f s).2).1, (solo M env (k (f s).1) (f s).2).2)
    | none => (⟨o, env o⟩ :: (solo M env (k (env o)) s).1, (solo M env (k (env o)) s).2)

/-- A started task can be run to its end. -/
theorem reach_finish {s₀ : σ} (env : (o : S.Op) → S.Res o) {ts : List (Task S ε)} : ∀ (q : Prog S ε Unit) {s : σ}
    {t : Task S ε}, t.rest = q → Reach M s₀ ⟨s, ts ++ [t]⟩ →
    ∃ t' x, Reach M s₀ ⟨(M.solo env q s).2, ts ++ [t']⟩ ∧ t'.start = t.start ∧ t'.hist = t.hist ++ (M.solo env q s).1 ∧
      t'.Ended x
  | .ret a, s, t, hq, h => ⟨t, .ok a, h, rfl, (List.append_nil _).symm, hq⟩
  | .raise e, s, t, hq, h => ⟨t, .error e, h, rfl, (List.append_nil _).symm, hq⟩
  | .perform o k, s, t, hq, h => by
    have hi : (ts ++ [t])[ts.length]? = some t := by simp
    have hset : ∀ u : Task S ε, (ts ++ [t]).set ts.length u = ts ++ [u] := fun u => by simp
    unfold solo
    cases hf : M.sem o with
    | some f =>
      have hstep := Relation.ReflTransGen.tail h (Step.shared hi hq hf)
      rw [hset] at hstep
      obtain ⟨t', x, hr, hs, hh, he⟩ := reach_finish env (k (f s).1) rfl hstep
      exact ⟨t', x, hr, hs, by simp [hh], he⟩
    | none =>
      have hstep := Relation.ReflTransGen.tail h (Step.answer (env o) hi hq hf)
      rw [hset] at hstep
      obtain ⟨t', x, hr, hs, hh, he⟩ := reach_finish env (k (env o)) rfl hstep
      exact ⟨t', x, hr, hs, by simp [hh], he⟩

/-- One more request, run while nothing else happens. -/
theorem Reach.solo {s₀ : σ} {c : Config S ε σ} (h : Reach M s₀ c) {p : Prog S ε Unit} (hp : M.handles p)
    (env : (o : S.Op) → S.Res o) : ∃ t x, Reach M s₀ ⟨(M.solo env p c.state).2, c.tasks ++ [t]⟩ ∧
      t.hist = (M.solo env p c.state).1 ∧ t.Ended x := by
  obtain ⟨t, x, hr, -, hh, he⟩ := reach_finish env p rfl (Relation.ReflTransGen.tail h (Step.start hp))
  exact ⟨t, x, hr, hh, he⟩

end Machine

end Effect
