/-
Serving the elements of a list in turn. What is kept is that the counts rise along the list from its
next element on, and differ by one at most: serving the next one and moving it to the end keeps both.
-/
import Mathlib.Data.List.GetD
import Mathlib.Data.List.Rotate
import Mathlib.Logic.Function.Basic
import Mathlib.Tactic.Common

namespace Data.Rotation

variable {α : Type} {xs : List α} {c : α → Nat}

/-- The counts rise along the list, by one at most. -/
structure InTurn (xs : List α) (c : α → Nat) : Prop where
  rising : xs.Pairwise fun x y => c x ≤ c y
  close : ∀ x ∈ xs, ∀ y ∈ xs, c x ≤ c y + 1

theorem inTurn_of_equal (h : ∀ x ∈ xs, ∀ y ∈ xs, c x = c y) : InTurn xs c := by
  constructor
  · exact List.pairwise_of_forall_mem_list fun x hx y hy => (h x hx y hy).le
  · intro x hx y hy
    rw [h x hx y hy]
    omega

variable [DecidableEq α] {x : α}

/-- The next element is served and moves to the end. -/
theorem InTurn.serve (h : InTurn (x :: xs) c) (hn : (x :: xs).Nodup) : InTurn (xs ++ [x]) (Function.update c x (c x + 1)) := by
  obtain ⟨hx, -⟩ := List.nodup_cons.1 hn
  obtain ⟨hle, hrising⟩ := List.pairwise_cons.1 h.rising
  have hsame : ∀ y ∈ xs, Function.update c x (c x + 1) y = c y := by
    intro y hy
    apply Function.update_of_ne
    rintro rfl
    exact hx hy
  constructor
  · rw [List.pairwise_append]
    refine ⟨?_, List.pairwise_singleton _ _, ?_⟩
    · refine hrising.imp_of_mem ?_
      intro y z hy hz hyz
      rwa [hsame y hy, hsame z hz]
    · intro y hy z hz
      rw [List.mem_singleton.1 hz, Function.update_self, hsame y hy]
      exact h.close y (List.mem_cons_of_mem _ hy) x (List.mem_cons_self ..)
  · have hcount : ∀ y ∈ xs ++ [x], Function.update c x (c x + 1) y ≤ c x + 1 ∧ c x ≤ Function.update c x (c x + 1) y := by
      intro y hy
      rcases List.mem_append.1 hy with hy | hy
      · rw [hsame y hy]
        exact ⟨h.close y (List.mem_cons_of_mem _ hy) x (List.mem_cons_self ..), hle y hy⟩
      · rw [List.mem_singleton.1 hy, Function.update_self]
        omega
    intro y hy z hz
    have hy := (hcount y hy).1
    have hz := (hcount z hz).2
    omega

/-- Serving the element at an index the list has been rotated to. -/
theorem InTurn.serve_at {i : Nat} {d : α} (hi : i < xs.length) (hn : xs.Nodup) (h : InTurn (xs.rotate i) c) :
    InTurn (xs.rotate (i + 1)) (Function.update c (xs.getD i d) (c (xs.getD i d) + 1)) := by
  have hget : xs.getD i d = xs[i] := List.getD_eq_getElem _ _ hi
  have hrot : xs.rotate i = xs[i] :: (xs.drop (i + 1) ++ xs.take i) := by
    rw [List.rotate_eq_drop_append_take hi.le, List.drop_eq_getElem_cons hi, List.cons_append]
  rw [hget, ← List.rotate_rotate, hrot, List.rotate_cons_succ, List.rotate_zero]
  rw [hrot] at h
  apply h.serve
  rw [← hrot]
  exact List.nodup_rotate.2 hn

end Data.Rotation
