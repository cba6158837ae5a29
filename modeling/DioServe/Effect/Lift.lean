/-
Programs over a larger signature: each operation of the smaller one is one of the larger. What the
lifted program does is what the program does, event by event.
-/
import DioServe.Effect.Prog

namespace Effect

/-- Each operation of `S` as one of `T`, and its answers read back. -/
structure Sig.Embed (S T : Sig) where
  op : S.Op → T.Op
  res : ∀ o, T.Res (op o) → S.Res o

/-- An event over the larger signature stands for one over the smaller. -/
def Sig.Embed.Stands {S T : Sig} (f : Sig.Embed S T) (ev : Event T) (ev' : Event S) : Prop :=
  ∃ r, ev = ⟨f.op ev'.op, r⟩ ∧ ev'.res = f.res ev'.op r

namespace Prog

variable {S T : Sig} {ε α : Type}

/-- The program over the larger signature. -/
def lift (f : Sig.Embed S T) : Prog S ε α → Prog T ε α
  | ret a => ret a
  | raise e => raise e
  | perform o k => perform (f.op o) fun r => (k (f.res o r)).lift f

/-- An execution of the lifted program stands for one of the program. -/
theorem exec_lift (f : Sig.Embed S T) : ∀ {p : Prog S ε α} {t : List (Event T)} {x : Except ε α}, (p.lift f).Exec t x →
    ∃ t', p.Exec t' x ∧ List.Forall₂ f.Stands t t'
  | ret _, _, _, ⟨rfl, rfl⟩ => ⟨[], ⟨rfl, rfl⟩, .nil⟩
  | raise _, _, _, ⟨rfl, rfl⟩ => ⟨[], ⟨rfl, rfl⟩, .nil⟩
  | perform o _, _, _, ⟨r, _, rfl, h⟩ => by
    obtain ⟨t', h', hstands⟩ := exec_lift f h
    exact ⟨⟨o, f.res o r⟩ :: t', ⟨_, t', rfl, h'⟩, .cons ⟨r, rfl, rfl⟩ hstands⟩

end Prog

end Effect
