/-
Runs of a deterministic machine as lists of moves: the state they lead to, the moves permitted in
turn, and what holds of every state on the way.
-/
import Mathlib.Data.List.Basic

namespace Effect.Trace

variable {σ μ : Type} (exec : μ → σ → σ)

/-- The state after some moves. -/
def play (s : σ) : List μ → σ
  | [] => s
  | m :: ms => play (exec m s) ms

/-- Each move is permitted when its turn comes. -/
def Allowed (ok : σ → μ → Prop) (s : σ) : List μ → Prop
  | [] => True
  | m :: ms => ok s m ∧ Allowed ok (exec m s) ms

/-- Every state on the way has the property, the first and the last included. -/
def Always (P : σ → Prop) (s : σ) : List μ → Prop
  | [] => P s
  | m :: ms => P s ∧ Always P (exec m s) ms

instance decidableAllowed (ok : σ → μ → Prop) [∀ s m, Decidable (ok s m)] :
    ∀ (s : σ) (ms : List μ), Decidable (Allowed exec ok s ms)
  | _, [] => .isTrue trivial
  | s, m :: ms =>
    have : Decidable (Allowed exec ok (exec m s) ms) := decidableAllowed ok (exec m s) ms
    inferInstanceAs (Decidable (ok s m ∧ Allowed exec ok (exec m s) ms))

variable {exec} {ok good bad : σ → μ → Prop} {P Q I : σ → Prop}

theorem play_append (s : σ) : ∀ ms ms' : List μ, play exec s (ms ++ ms') = play exec (play exec s ms) ms'
  | [], _ => rfl
  | m :: ms, ms' => play_append (exec m s) ms ms'

theorem allowed_append {ms' : List μ} : ∀ {ms : List μ} {s : σ}, Allowed exec ok s (ms ++ ms') ↔
    Allowed exec ok s ms ∧ Allowed exec ok (play exec s ms) ms'
  | [], _ => by simp [Allowed, play]
  | m :: ms, s => by
    rw [List.cons_append, Allowed, Allowed, allowed_append, and_assoc]
    exact Iff.rfl

theorem Allowed.mono (h : ∀ s m, ok s m → good s m) : ∀ {ms : List μ} {s : σ}, Allowed exec ok s ms →
    Allowed exec good s ms
  | [], _, _ => trivial
  | _ :: _, _, hm => ⟨h _ _ hm.1, hm.2.mono h⟩

theorem Allowed.and (h : ∀ s m, ok s m → good s m → bad s m) : ∀ {ms : List μ} {s : σ}, Allowed exec ok s ms →
    Allowed exec good s ms → Allowed exec bad s ms
  | [], _, _, _ => trivial
  | _ :: _, _, ho, hg => ⟨h _ _ ho.1 hg.1, ho.2.and h hg.2⟩

/-- What is asked of the moves alone is asked of each. -/
theorem allowed_iff_forall {p : μ → Prop} : ∀ {ms : List μ} {s : σ}, Allowed exec (fun _ m => p m) s ms ↔ ∀ m ∈ ms, p m
  | [], _ => by simp [Allowed]
  | m :: ms, s => by rw [Allowed, List.forall_mem_cons, allowed_iff_forall]

/-- A property each permitted move keeps holds of every state on the way. -/
theorem always_of_invariant (hstep : ∀ s m, P s → ok s m → P (exec m s)) : ∀ {ms : List μ} {s : σ}, P s →
    Allowed exec ok s ms → Always exec P s ms
  | [], _, h0, _ => h0
  | _ :: _, _, h0, hm => ⟨h0, always_of_invariant hstep (hstep _ _ h0 hm.1) hm.2⟩

theorem Always.mono (h : ∀ s, P s → Q s) : ∀ {ms : List μ} {s : σ}, Always exec P s ms → Always exec Q s ms
  | [], _, hP => h _ hP
  | _ :: _, _, hP => ⟨h _ hP.1, hP.2.mono h⟩

theorem Always.and : ∀ {ms : List μ} {s : σ}, Always exec P s ms → Always exec Q s ms →
    Always exec (fun s => P s ∧ Q s) s ms
  | [], _, hP, hQ => ⟨hP, hQ⟩
  | _ :: _, _, hP, hQ => ⟨⟨hP.1, hQ.1⟩, hP.2.and hQ.2⟩

/-- A move that is permitted, and good where `P` holds, is good all the way. -/
theorem Always.allowed (h : ∀ s m, P s → ok s m → good s m) : ∀ {ms : List μ} {s : σ}, Always exec P s ms →
    Allowed exec ok s ms → Allowed exec good s ms
  | [], _, _, _ => trivial
  | _ :: _, _, hP, ho => ⟨h _ _ hP.1 ho.1, hP.2.allowed h ho.2⟩

/-- A property of every state holds after each move. -/
theorem Always.next : ∀ {ms : List μ} {s : σ}, Always exec P s ms → Allowed exec (fun s m => P (exec m s)) s ms
  | [], _, _ => trivial
  | [_], _, h => ⟨h.2, trivial⟩
  | m :: m' :: ms, s, h => by
    have hrest : Allowed exec (fun s m => P (exec m s)) (exec m s) (m' :: ms) := Always.next h.2
    exact ⟨h.2.1, hrest⟩

theorem Always.last : ∀ {ms : List μ} {s : σ}, Always exec P s ms → P (play exec s ms)
  | [], _, h => h
  | _ :: _, _, h => h.2.last

/-- A property each permitted move keeps holds at the end. -/
theorem play_invariant (hstep : ∀ s m, P s → ok s m → P (exec m s)) {ms : List μ} {s : σ} (h0 : P s)
    (hm : Allowed exec ok s ms) : P (play exec s ms) := (always_of_invariant hstep h0 hm).last

/-! ## Views -/

section View

variable {τ ν : Type}

/-- The shadows that some moves cast, in turn. -/
def shadows (exec : μ → σ → σ) (shadow : σ → μ → Option ν) (s : σ) : List μ → List ν
  | [] => []
  | m :: ms => (shadow s m).toList ++ shadows exec shadow (exec m s) ms

/-- A view that each move changes as its shadow says is led by the shadows alone. -/
theorem view_play (view : σ → τ) (shadow : σ → μ → Option ν) (act : ν → τ → τ)
    (h : ∀ s m, view (exec m s) = (shadow s m).elim (view s) fun n => act n (view s)) :
    ∀ (ms : List μ) (s : σ), view (play exec s ms) = play act (view s) (shadows exec shadow s ms)
  | [], _ => rfl
  | m :: ms, s => by
    rw [play, view_play view shadow act h ms, h, shadows]
    cases shadow s m <;> rfl

/-- What is asked of every shadow is asked of the shadows in turn. -/
theorem allowed_shadows (view : σ → τ) (shadow : σ → μ → Option ν) (act : ν → τ → τ)
    (h : ∀ s m, view (exec m s) = (shadow s m).elim (view s) fun n => act n (view s)) {good : τ → ν → Prop} :
    ∀ {ms : List μ} {s : σ}, Allowed exec (fun s m => ∀ n ∈ shadow s m, good (view s) n) s ms →
      Allowed act good (view s) (shadows exec shadow s ms)
  | [], _, _ => trivial
  | m :: ms, s, ⟨hm, hms⟩ => by
    have hrest := allowed_shadows view shadow act h hms
    rw [h] at hrest
    rw [shadows]
    cases hn : shadow s m with
    | none => rwa [hn] at hrest
    | some n =>
      rw [hn] at hrest
      exact ⟨hm n hn, hrest⟩

end View

/-- `P` holds throughout exactly when every move is good, if in the states where it holds the good
moves are those that keep it. -/
theorem always_iff_allowed (hinv : ∀ s m, I s → ok s m → I (exec m s))
    (hgood : ∀ s m, I s → P s → ok s m → (P (exec m s) ↔ good s m)) : ∀ {ms : List μ} {s : σ}, I s → P s →
    Allowed exec ok s ms → (Always exec P s ms ↔ Allowed exec good s ms)
  | [], _, _, hP, _ => iff_of_true hP trivial
  | m :: ms, s, hI, hP, hm => by
    have hnext := hgood s m hI hP hm.1
    constructor
    · rintro ⟨_, h⟩
      have hP' : P (exec m s) := by cases ms with
        | nil => exact h
        | cons _ _ => exact h.1
      exact ⟨hnext.1 hP', (always_iff_allowed hinv hgood (hinv s m hI hm.1) hP' hm.2).1 h⟩
    · rintro ⟨hg, h⟩
      have hP' : P (exec m s) := hnext.2 hg
      exact ⟨hP, (always_iff_allowed hinv hgood (hinv s m hI hm.1) hP' hm.2).2 h⟩

end Effect.Trace
