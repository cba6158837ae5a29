/-
Steps toward a target. A step that goes in the direction of an error, at most so many times as far,
still does after it was scaled, added to another, cut to a trust region, or stopped at the end of a
range.
-/
import Mathlib.Algebra.Order.Field.Basic
import Mathlib.Algebra.Order.Group.MinMax
import Mathlib.Order.Interval.Set.UnorderedInterval
import Mathlib.Tactic.Linarith
import Mathlib.Tactic.Ring

namespace Stats

variable {K : Type} [Field K] [LinearOrder K] [IsStrictOrderedRing K]

/-- The step `d` goes in the direction of `e`, at most `g` times as far. -/
structure Toward (g e d : K) : Prop where
  up : 0 ≤ e → 0 ≤ d ∧ d ≤ g * e
  down : e ≤ 0 → g * e ≤ d ∧ d ≤ 0

namespace Toward

variable {g g' e d d' c : K}

theorem gain (hg : 0 ≤ g) (e : K) : Toward g e (g * e) := by
  constructor
  · intro he
    exact ⟨mul_nonneg hg he, le_refl _⟩
  · intro he
    exact ⟨le_refl _, mul_nonpos_of_nonneg_of_nonpos hg he⟩

theorem add (h : Toward g e d) (h' : Toward g' e d') : Toward (g + g') e (d + d') := by
  constructor
  · intro he
    rw [add_mul]
    exact ⟨add_nonneg (h.up he).1 (h'.up he).1, add_le_add (h.up he).2 (h'.up he).2⟩
  · intro he
    rw [add_mul]
    exact ⟨add_le_add (h.down he).1 (h'.down he).1, add_nonpos (h.down he).2 (h'.down he).2⟩

theorem smul (hc : 0 ≤ c) (h : Toward g e d) : Toward (c * g) e (c * d) := by
  constructor
  · intro he
    rw [mul_assoc]
    exact ⟨mul_nonneg hc (h.up he).1, mul_le_mul_of_nonneg_left (h.up he).2 hc⟩
  · intro he
    rw [mul_assoc]
    exact ⟨mul_le_mul_of_nonneg_left (h.down he).1 hc, mul_nonpos_of_nonneg_of_nonpos hc (h.down he).2⟩

/-- A step toward a part of the error is a step toward the error. -/
theorem trans {u : K} (hu : Toward 1 e u) (hg : 0 ≤ g) (h : Toward g u d) : Toward g e d := by
  constructor
  · intro he
    obtain ⟨h0, h1⟩ := hu.up he
    rw [one_mul] at h1
    exact ⟨(h.up h0).1, (h.up h0).2.trans (mul_le_mul_of_nonneg_left h1 hg)⟩
  · intro he
    obtain ⟨h1, h0⟩ := hu.down he
    rw [one_mul] at h1
    exact ⟨(mul_le_mul_of_nonneg_left h1 hg).trans (h.down h0).1, (h.down h0).2⟩

/-- With a gain of at most one a step stops before the target. -/
theorem mem_uIcc {x y : K} (hg : g ≤ 1) (h : Toward g (y - x) d) : x + d ∈ Set.uIcc x y := by
  rcases le_total x y with hxy | hyx
  · obtain ⟨h0, h1⟩ := h.up (sub_nonneg.2 hxy)
    have hle : g * (y - x) ≤ 1 * (y - x) := mul_le_mul_of_nonneg_right hg (sub_nonneg.2 hxy)
    rw [Set.uIcc_of_le hxy]
    constructor <;> linarith
  · obtain ⟨h1, h0⟩ := h.down (sub_nonpos.2 hyx)
    have hle : 1 * (y - x) ≤ g * (y - x) := mul_le_mul_of_nonpos_right hg (sub_nonpos.2 hyx)
    rw [Set.uIcc_of_ge hyx]
    constructor <;> linarith

/-- The lengths of steps toward one target add up. -/
theorem abs_add (h : Toward g e d) (h' : Toward g' e d') : |d + d'| = |d| + |d'| := by
  rcases le_total 0 e with he | he
  · obtain ⟨hd, -⟩ := h.up he
    obtain ⟨hd', -⟩ := h'.up he
    rw [abs_of_nonneg (add_nonneg hd hd'), abs_of_nonneg hd, abs_of_nonneg hd']
  · obtain ⟨-, hd⟩ := h.down he
    obtain ⟨-, hd'⟩ := h'.down he
    rw [abs_of_nonpos (add_nonpos hd hd'), abs_of_nonpos hd, abs_of_nonpos hd', neg_add]

/-! ## Cutting a step short -/

/-- An error cut to a tolerance. -/
theorem cut {limit : K} (hl : 0 ≤ limit) (e : K) :
    Toward 1 e (if e > limit then limit else if e < -limit then -limit else e) := by
  constructor
  · intro he
    rw [one_mul]
    split
    · rename_i h
      exact ⟨hl, h.le⟩
    · rw [if_neg (by linarith)]
      exact ⟨he, le_refl _⟩
  · intro he
    rw [one_mul, if_neg (by linarith)]
    split
    · rename_i h
      exact ⟨h.le, neg_nonpos.2 hl⟩
    · exact ⟨le_refl _, he⟩

/-- A step cut to a trust region. -/
theorem clip (hc : 0 ≤ c) (h : Toward g e d) : Toward g e (max (-c) (min c d)) := by
  constructor
  · intro he
    obtain ⟨h0, h1⟩ := h.up he
    rw [max_eq_right (by linarith [le_min hc h0])]
    exact ⟨le_min hc h0, (min_le_right c d).trans h1⟩
  · intro he
    obtain ⟨h1, h0⟩ := h.down he
    rw [min_eq_right (h0.trans hc)]
    exact ⟨h1.trans (le_max_right _ _), max_le (neg_nonpos.2 hc) h0⟩

/-- A step stopped at the end of a range. -/
theorem box {lo hi x : K} (hx : x ∈ Set.Icc lo hi) (h : Toward g e d) : Toward g e (max lo (min hi (x + d)) - x) := by
  obtain ⟨hlo, hhi⟩ := hx
  constructor
  · intro he
    obtain ⟨h0, h1⟩ := h.up he
    have hmin : x ≤ min hi (x + d) := le_min hhi (by linarith)
    have hle : min hi (x + d) ≤ x + d := min_le_right _ _
    rw [max_eq_right (hlo.trans hmin)]
    constructor <;> linarith
  · intro he
    obtain ⟨h1, h0⟩ := h.down he
    rw [min_eq_right (by linarith : x + d ≤ hi)]
    have hle : x + d ≤ max lo (x + d) := le_max_right _ _
    have hmax : max lo (x + d) ≤ x := max_le hlo (by linarith)
    constructor <;> linarith

end Toward

/-! ## The length of a step cut short -/

omit [Field K] [IsStrictOrderedRing K] in
/-- A value stopped at the ends of a range is in it. -/
theorem box_mem_Icc {lo hi : K} (h : lo ≤ hi) (x : K) : max lo (min hi x) ∈ Set.Icc lo hi :=
  ⟨le_max_left _ _, max_le h (min_le_left _ _)⟩

theorem abs_clip {c : K} (hc : 0 ≤ c) (d : K) : |max (-c) (min c d)| = min |d| c := by
  rcases le_total 0 d with hd | hd
  · have h0 : 0 ≤ min c d := le_min hc hd
    rw [max_eq_right (by linarith), abs_of_nonneg h0, abs_of_nonneg hd, min_comm]
  · rw [min_eq_right (hd.trans hc), abs_of_nonpos (max_le (neg_nonpos.2 hc) hd), abs_of_nonpos hd, max_comm, ← min_neg_neg,
      neg_neg]

/-- What is left of the range in the direction of `e`. -/
def room (lo hi x e : K) : K := if 0 ≤ e then hi - x else x - lo

/-- A step stopped at the end of a range is as long as there is room. -/
theorem abs_box {lo hi x g e d : K} (hx : x ∈ Set.Icc lo hi) (h : Toward g e d) :
    |max lo (min hi (x + d)) - x| = min |d| (room lo hi x e) := by
  obtain ⟨hlo, hhi⟩ := hx
  unfold room
  split
  · rename_i he
    obtain ⟨h0, -⟩ := h.up he
    have hmin : x ≤ min hi (x + d) := le_min hhi (by linarith)
    rw [max_eq_right (hlo.trans hmin), abs_of_nonneg (by linarith), abs_of_nonneg h0, ← min_sub_sub_right, add_sub_cancel_left,
      min_comm]
  · rename_i he
    obtain ⟨-, h0⟩ := h.down (not_le.1 he).le
    have hmax : max lo (x + d) ≤ x := max_le hlo (by linarith)
    rw [min_eq_right (by linarith : x + d ≤ hi), abs_of_nonpos (by linarith), abs_of_nonpos h0, neg_sub, ← min_sub_sub_left,
      sub_add_cancel_left, min_comm]

end Stats
