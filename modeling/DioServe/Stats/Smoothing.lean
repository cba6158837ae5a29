/-
Exponential smoothing. A smoothed value never leaves what was observed: there is always an observation at most as large,
and one at least as large.
-/
import Mathlib.Algebra.Order.Field.Basic
import Mathlib.Tactic.Linarith
import Mathlib.Tactic.Ring

namespace Stats

variable {K : Type}

/-- The value lies amid the observations. -/
structure Amid [LinearOrder K] (xs : List K) (y : K) : Prop where
  above : ∃ lo ∈ xs, lo ≤ y
  below : ∃ hi ∈ xs, y ≤ hi

namespace Amid

theorem last [LinearOrder K] (xs : List K) (x : K) : Amid (xs ++ [x]) x :=
  ⟨⟨x, by simp, le_refl x⟩, ⟨x, by simp, le_refl x⟩⟩

variable [Field K] [LinearOrder K] [IsStrictOrderedRing K] {xs : List K} {y a : K}

/-- A mean of the value and a new observation lies amid all of them. -/
theorem mean (h : Amid xs y) (ha : 0 ≤ a) (ha' : a ≤ 1) (x : K) : Amid (xs ++ [x]) (a * x + (1 - a) * y) := by
  obtain ⟨⟨lo, hlo, hly⟩, ⟨hi, hhi, hyh⟩⟩ := h
  have hb : 0 ≤ 1 - a := sub_nonneg.2 ha'
  have hx : a * x + (1 - a) * x = x := by ring
  have hy : a * y + (1 - a) * y = y := by ring
  rcases le_total x y with hxy | hyx
  · have hax := mul_le_mul_of_nonneg_left hxy ha
    have hbx := mul_le_mul_of_nonneg_left hxy hb
    refine ⟨⟨x, by simp, ?_⟩, ⟨hi, by simp [hhi], ?_⟩⟩
    · linarith
    · linarith
  · have hax := mul_le_mul_of_nonneg_left hyx ha
    have hbx := mul_le_mul_of_nonneg_left hyx hb
    refine ⟨⟨lo, by simp [hlo], ?_⟩, ⟨x, by simp, ?_⟩⟩
    · linarith
    · linarith

end Amid

end Stats
