/-
Bounded queues as lists, oldest first: a push onto a full queue drops its oldest element.
-/
import Mathlib.Data.List.Forall2
import Mathlib.Tactic.Common

namespace Data.Deque

variable {α β : Type}

/-- `append` on a deque of at most `n` elements. -/
def push (n : Nat) (xs : List α) (x : α) : List α := (xs ++ [x]).drop (xs.length + 1 - n)

theorem length_push (n : Nat) (xs : List α) (x : α) : (push n xs x).length = min n (xs.length + 1) := by
  simp only [push, List.length_drop, List.length_append, List.length_cons, List.length_nil]
  omega

/-- Below the bound a push keeps everything. -/
theorem push_of_lt {n : Nat} {xs : List α} (h : xs.length < n) (x : α) : push n xs x = xs ++ [x] := by
  unfold push
  rw [show xs.length + 1 - n = 0 by omega, List.drop_zero]

/-- The last `n` of a list. -/
def lastN (n : Nat) (xs : List α) : List α := xs.drop (xs.length - n)

/-- What was pushed last is what a queue keeps. -/
theorem push_lastN (n : Nat) (xs : List α) (x : α) : push n (lastN n xs) x = lastN n (xs ++ [x]) := by
  have hle : xs.length - n ≤ xs.length := Nat.sub_le _ _
  have hsplit : xs.drop (xs.length - n) ++ [x] = (xs ++ [x]).drop (xs.length - n) :=
    (List.drop_append_of_le_length hle).symm
  unfold push lastN
  rw [hsplit, List.drop_drop, List.length_drop, List.length_append, List.length_singleton]
  congr 1
  omega

theorem map_push (f : α → β) (n : Nat) (xs : List α) (x : α) : (push n xs x).map f = push n (xs.map f) (f x) := by
  simp [push, List.map_drop]

/-- Related queues stay related when related elements are pushed. -/
theorem push_forall₂ {R : α → β → Prop} {n : Nat} {xs : List α} {ys : List β} {x : α} {y : β}
    (h : List.Forall₂ R xs ys) (hxy : R x y) : List.Forall₂ R (push n xs x) (push n ys y) := by
  unfold push
  rw [h.length_eq]
  exact List.forall₂_drop _ (List.rel_append h (.cons hxy .nil))

end Data.Deque
