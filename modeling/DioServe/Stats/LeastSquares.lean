/-
Recursive least squares in any number of dimensions. The normal matrix of the samples, each older one
discounted, is positive; its inverse follows it by a rank-one update; and a paraboloid about its
minimum stays one when a squared error is added.
-/
import Mathlib.LinearAlgebra.Matrix.NonsingularInverse
import Mathlib.LinearAlgebra.Matrix.Symmetric
import Mathlib.Tactic.FieldSimp
import Mathlib.Tactic.Linarith
import Mathlib.Tactic.Module

namespace Stats

open Matrix

/-! ## Discounted sums -/

/-- The sum over a list, each element discounted once for every later one. -/
def discounted {α K M : Type} [Semiring K] [AddCommMonoid M] [Module K M] (lam : K) (f : α → M) : List α → M
  | [] => 0
  | x :: xs => lam ^ xs.length • f x + discounted lam f xs

theorem discounted_concat {α K M : Type} [Semiring K] [AddCommMonoid M] [Module K M] (lam : K) (f : α → M) :
    ∀ (xs : List α) (x : α), discounted lam f (xs ++ [x]) = lam • discounted lam f xs + f x
  | [], x => by simp [discounted]
  | y :: ys, x => by
    rw [List.cons_append, discounted, discounted, discounted_concat lam f ys x, List.length_append, List.length_singleton,
      smul_add, smul_smul, ← pow_succ', add_assoc]

variable {ι K : Type} [Fintype ι] [Field K] [LinearOrder K] [IsStrictOrderedRing K]

/-! ## Positive matrices -/

/-- Symmetric, with a positive quadratic form. -/
structure Positive (R : Matrix ι ι K) : Prop where
  symm : R.IsSymm
  pos : ∀ v ≠ 0, 0 < v ⬝ᵥ R *ᵥ v

omit [LinearOrder K] [IsStrictOrderedRing K] in
theorem dotProduct_mulVec_comm {R : Matrix ι ι K} (hR : R.IsSymm) (u v : ι → K) : u ⬝ᵥ R *ᵥ v = v ⬝ᵥ R *ᵥ u := by
  rw [dotProduct_mulVec, ← mulVec_transpose, hR.eq, dotProduct_comm]

omit [IsStrictOrderedRing K] in
theorem Positive.nonneg {R : Matrix ι ι K} (h : Positive R) (v : ι → K) : 0 ≤ v ⬝ᵥ R *ᵥ v := by
  by_cases hv : v = 0
  · rw [hv, zero_dotProduct]
  · exact (h.pos v hv).le

theorem dotProduct_self_pos {v : ι → K} (hv : v ≠ 0) : 0 < v ⬝ᵥ v := by
  obtain ⟨i, hi⟩ := Function.ne_iff.1 hv
  exact Finset.sum_pos' (fun j _ => mul_self_nonneg (v j)) ⟨i, Finset.mem_univ i, mul_self_pos.2 hi⟩

/-- A sample added to the discounted normal matrix. -/
def enter (lam : K) (R : Matrix ι ι K) (x : ι → K) : Matrix ι ι K := lam • R + vecMulVec x x

omit [LinearOrder K] [IsStrictOrderedRing K] in
theorem enter_mulVec (lam : K) (R : Matrix ι ι K) (x v : ι → K) :
    enter lam R x *ᵥ v = lam • R *ᵥ v + (x ⬝ᵥ v) • x := by
  unfold enter
  rw [add_mulVec, smul_mulVec, vecMulVec_mulVec, op_smul_eq_smul]

theorem Positive.enter {lam : K} (hlam : 0 < lam) {R : Matrix ι ι K} (h : Positive R) (x : ι → K) :
    Positive (enter lam R x) := by
  constructor
  · exact (h.symm.smul lam).add (transpose_vecMulVec x x)
  · intro v hv
    rw [enter_mulVec, dotProduct_add, dotProduct_smul, dotProduct_smul, smul_eq_mul, smul_eq_mul, dotProduct_comm v x]
    exact add_pos_of_pos_of_nonneg (mul_pos hlam (h.pos v hv)) (mul_self_nonneg _)

variable [DecidableEq ι]

theorem Positive.scalar {c : K} (hc : 0 < c) : Positive (c • (1 : Matrix ι ι K)) := by
  constructor
  · exact isSymm_one.smul c
  · intro v hv
    rw [smul_mulVec, one_mulVec, dotProduct_smul]
    exact mul_pos hc (dotProduct_self_pos hv)

omit [IsStrictOrderedRing K] in
/-- The inverse of a positive matrix is positive. -/
theorem Positive.inverse {R P : Matrix ι ι K} (h : Positive R) (hP : P * R = 1) : Positive P := by
  have hRP : R * P = 1 := mul_eq_one_comm.1 hP
  constructor
  · have hT : Pᵀ * R = 1 := by rw [← h.symm.eq, ← transpose_mul, hRP, transpose_one]
    calc Pᵀ = Pᵀ * (R * P) := by rw [hRP, Matrix.mul_one]
      _ = P := by rw [← Matrix.mul_assoc, hT, Matrix.one_mul]
  · intro v hv
    have hne : P *ᵥ v ≠ 0 := by
      intro h0
      apply hv
      rw [← one_mulVec v, ← hRP, ← mulVec_mulVec, h0, mulVec_zero]
    have hquad : v ⬝ᵥ P *ᵥ v = (P *ᵥ v) ⬝ᵥ R *ᵥ (P *ᵥ v) := by
      rw [mulVec_mulVec, hRP, one_mulVec, dotProduct_comm]
    rw [hquad]
    exact h.pos _ hne

/-- Against a unit pairing the form of the inverse is at least the inverse of the form. -/
theorem Positive.one_le_mul {R P : Matrix ι ι K} (h : Positive R) (hP : P * R = 1) {x y : ι → K} (hxy : x ⬝ᵥ y = 1) :
    1 ≤ (x ⬝ᵥ P *ᵥ x) * (y ⬝ᵥ R *ᵥ y) := by
  have hRP : R * P = 1 := mul_eq_one_comm.1 hP
  have hx : x ≠ 0 := by
    rintro rfl
    rw [zero_dotProduct] at hxy
    exact zero_ne_one hxy
  have hq : 0 < x ⬝ᵥ P *ᵥ x := (h.inverse hP).pos x hx
  -- the form of `R` at `y - s P x`, at its least
  have hform : ∀ s : K, 0 ≤ y ⬝ᵥ R *ᵥ y - 2 * s + s * s * (x ⬝ᵥ P *ᵥ x) := by
    intro s
    have hnn := h.nonneg (y - s • P *ᵥ x)
    have hw : R *ᵥ P *ᵥ x = x := by rw [mulVec_mulVec, hRP, one_mulVec]
    have hcross : (P *ᵥ x) ⬝ᵥ R *ᵥ y = 1 := by
      rw [dotProduct_mulVec_comm h.symm, hw, dotProduct_comm, hxy]
    rw [mulVec_sub, mulVec_smul, hw, sub_dotProduct, dotProduct_sub, dotProduct_sub, smul_dotProduct, smul_dotProduct,
      dotProduct_smul, dotProduct_smul, hcross, dotProduct_comm y x, hxy, dotProduct_comm (P *ᵥ x) x] at hnn
    simp only [smul_eq_mul] at hnn
    linarith
  have hmin := hform (x ⬝ᵥ P *ᵥ x)⁻¹
  have hinv : (x ⬝ᵥ P *ᵥ x)⁻¹ * (x ⬝ᵥ P *ᵥ x)⁻¹ * (x ⬝ᵥ P *ᵥ x) = (x ⬝ᵥ P *ᵥ x)⁻¹ := by
    rw [mul_assoc, inv_mul_cancel₀ hq.ne', mul_one]
  rw [hinv] at hmin
  have hle : (x ⬝ᵥ P *ᵥ x)⁻¹ ≤ y ⬝ᵥ R *ᵥ y := by linarith
  calc (1 : K) = (x ⬝ᵥ P *ᵥ x) * (x ⬝ᵥ P *ᵥ x)⁻¹ := (mul_inv_cancel₀ hq.ne').symm
    _ ≤ _ := mul_le_mul_of_nonneg_left hle hq.le

/-! ## The rank-one update of the inverse -/

/-- The gain of a sample, given the inverse of the normal matrix. -/
def gain (lam : K) (P : Matrix ι ι K) (x : ι → K) : ι → K := (lam + x ⬝ᵥ P *ᵥ x)⁻¹ • P *ᵥ x

/-- The inverse after a sample. -/
def downdate (lam : K) (P : Matrix ι ι K) (x : ι → K) : Matrix ι ι K :=
  lam⁻¹ • (P - vecMulVec (gain lam P x) (x ᵥ* P))

omit [LinearOrder K] [IsStrictOrderedRing K] in
/-- The update keeps the inverse the inverse. -/
theorem downdate_mul_enter {lam : K} {P R : Matrix ι ι K} {x : ι → K} (hlam : lam ≠ 0) (hd : lam + x ⬝ᵥ P *ᵥ x ≠ 0)
    (hP : P * R = 1) : downdate lam P x * enter lam R x = 1 := by
  have hrow : x ᵥ* P ⬝ᵥ x = x ⬝ᵥ P *ᵥ x := (dotProduct_mulVec x P x).symm
  have hcoef : lam⁻¹ - (lam + x ⬝ᵥ P *ᵥ x)⁻¹ - lam⁻¹ * ((lam + x ⬝ᵥ P *ᵥ x)⁻¹ * (x ⬝ᵥ P *ᵥ x)) = 0 := by
    field_simp
    ring
  unfold downdate enter gain
  rw [smul_mul, Matrix.sub_mul, Matrix.mul_add, Matrix.mul_add, Matrix.mul_smul, Matrix.mul_smul, hP, vecMulVec_mul,
    vecMul_vecMul, hP, vecMul_one, mul_vecMulVec, vecMulVec_mul_vecMulVec, hrow, smul_vecMulVec, smul_vecMulVec,
    vecMulVec_smul]
  calc lam⁻¹ • (lam • (1 : Matrix ι ι K) + vecMulVec (P *ᵥ x) x - (lam • (lam + x ⬝ᵥ P *ᵥ x)⁻¹ • vecMulVec (P *ᵥ x) x +
        (lam + x ⬝ᵥ P *ᵥ x)⁻¹ • (x ⬝ᵥ P *ᵥ x) • vecMulVec (P *ᵥ x) x))
      = (lam⁻¹ * lam) • (1 : Matrix ι ι K) + (lam⁻¹ - lam⁻¹ * lam * (lam + x ⬝ᵥ P *ᵥ x)⁻¹ -
        lam⁻¹ * ((lam + x ⬝ᵥ P *ᵥ x)⁻¹ * (x ⬝ᵥ P *ᵥ x))) • vecMulVec (P *ᵥ x) x := by module
    _ = 1 := by rw [inv_mul_cancel₀ hlam, one_mul, hcoef, one_smul, zero_smul, add_zero]

omit [LinearOrder K] [IsStrictOrderedRing K] in
/-- The gain is what the new normal matrix takes to the sample. -/
theorem enter_gain {lam : K} {P R : Matrix ι ι K} {x : ι → K} (hd : lam + x ⬝ᵥ P *ᵥ x ≠ 0) (hP : P * R = 1) :
    enter lam R x *ᵥ gain lam P x = x := by
  have hRP : R * P = 1 := mul_eq_one_comm.1 hP
  unfold gain
  rw [enter_mulVec, mulVec_smul, mulVec_mulVec, hRP, one_mulVec, dotProduct_smul, smul_smul, ← add_smul, smul_eq_mul,
    mul_comm lam, ← mul_add, inv_mul_cancel₀ hd, one_smul]

/-! ## Minima -/

/-- `J` is a paraboloid with the form `R` about `c`. -/
def Paraboloid (R : Matrix ι ι K) (J : (ι → K) → K) (c : ι → K) : Prop :=
  ∀ v, J v = J c + (v - c) ⬝ᵥ R *ᵥ (v - c)

omit [DecidableEq ι] in
/-- The center of a positive paraboloid is its only minimum. -/
theorem Paraboloid.lt {R : Matrix ι ι K} {J : (ι → K) → K} {c : ι → K} (h : Paraboloid R J c) (hR : Positive R)
    {v : ι → K} (hv : v ≠ c) : J c < J v := by
  rw [h v]
  exact lt_add_of_pos_right _ (hR.pos _ (sub_ne_zero.2 hv))

omit [LinearOrder K] [IsStrictOrderedRing K] in
/-- A squared error moves the center by its gain. -/
theorem Paraboloid.enter {lam : K} {P R : Matrix ι ι K} {J : (ι → K) → K} {c : ι → K} (h : Paraboloid R J c)
    (hR : R.IsSymm) (hP : P * R = 1) (x : ι → K) (hd : lam + x ⬝ᵥ P *ᵥ x ≠ 0) (y : K) :
    Paraboloid (enter lam R x) (fun v => lam * J v + (y - x ⬝ᵥ v) ^ 2) (c + (y - x ⬝ᵥ c) • gain lam P x) := by
  have hsymm : (Stats.enter lam R x).IsSymm := (hR.smul lam).add (transpose_vecMulVec x x)
  -- about the old center, with the step `s`
  have hold : ∀ v, lam * J v + (y - x ⬝ᵥ v) ^ 2 = lam * J c + (y - x ⬝ᵥ c) ^ 2 +
      (v - c) ⬝ᵥ Stats.enter lam R x *ᵥ (v - c) - 2 * (y - x ⬝ᵥ c) * (x ⬝ᵥ (v - c)) := by
    intro v
    rw [h v, enter_mulVec, dotProduct_add, dotProduct_smul, dotProduct_smul, dotProduct_comm (v - c) x, dotProduct_sub]
    simp only [smul_eq_mul]
    ring
  intro v
  generalize hs : (y - x ⬝ᵥ c) • gain lam P x = s
  have hstep : Stats.enter lam R x *ᵥ s = (y - x ⬝ᵥ c) • x := by rw [← hs, mulVec_smul, enter_gain hd hP]
  have hcenter : c + s - c = s := add_sub_cancel_left c s
  have hshift : v - (c + s) = (v - c) - s := sub_add_eq_sub_sub v c s
  dsimp only
  rw [hold v, hold (c + s), hcenter, hshift]
  generalize v - c = u
  have hcross : s ⬝ᵥ Stats.enter lam R x *ᵥ u = (y - x ⬝ᵥ c) * (x ⬝ᵥ u) := by
    rw [dotProduct_mulVec_comm hsymm, hstep, dotProduct_smul, dotProduct_comm u x, smul_eq_mul]
  rw [mulVec_sub, sub_dotProduct, dotProduct_sub, dotProduct_sub, hcross, hstep, dotProduct_smul, dotProduct_smul,
    smul_eq_mul, smul_eq_mul, dotProduct_comm u x, dotProduct_comm s x]
  ring

end Stats
