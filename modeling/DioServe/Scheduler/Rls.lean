/-
The baseline (`scheduler.py`, `SimpleRLS`) is recursive least squares. Its four entries are the
inverse of the discounted normal matrix of the samples, and until a clamp binds its parameters are
the least-squares fit.
-/
import DioServe.Effect.Trace
import DioServe.Scheduler.Learner
import DioServe.Stats.LeastSquares

namespace Dio.Scheduler

open Matrix Stats Effect

variable {K : Type} [Field K] [LinearOrder K]

/-- A finished request, as the baseline sees it. -/
structure Timing (K : Type) where
  actualMs : K
  tokens : Int

/-- The regressor of a request: its tokens, and one for the intercept. -/
def feature (tokens : Int) : Fin 2 → K := ![tokenCount tokens, 1]

namespace SimpleRls

/-- `SimpleRLS(lam, slope, intercept)`. -/
def new (lam slope intercept : K) : SimpleRls K := { init slope intercept with lam := lam }

/-! ## The update in matrix form -/

/-- `P`. -/
def mat (m : SimpleRls K) : Matrix (Fin 2) (Fin 2) K := !![m.p00, m.p01; m.p10, m.p11]

def params (m : SimpleRls K) : Fin 2 → K := ![m.slope, m.intercept]

/-- The denominator of the gain, before its floor. -/
def denom (m : SimpleRls K) (tokens : Int) : K := m.lam + feature tokens ⬝ᵥ m.mat *ᵥ feature tokens

/-- The slope and the intercept an update comes to, before their clamps. -/
def raw (m : SimpleRls K) (s : Timing K) : Fin 2 → K :=
  m.params + (s.actualMs - feature s.tokens ⬝ᵥ m.params) • gain m.lam m.mat (feature s.tokens)

def observe (s : Timing K) (m : SimpleRls K) : SimpleRls K := m.update s.actualMs s.tokens

/-- The clamps change nothing. -/
def Unclamped (m : SimpleRls K) (s : Timing K) : Prop := ∀ i, 1 / 10 ≤ m.raw s i

omit [LinearOrder K] in
theorem predict_eq (m : SimpleRls K) (tokens : Int) : m.predict tokens = feature tokens ⬝ᵥ m.params := by
  simp [predict, feature, params, dotProduct, Fin.sum_univ_two, mul_comm]

omit [LinearOrder K] in
theorem mat_mulVec (m : SimpleRls K) (x0 x1 : K) : m.mat *ᵥ ![x0, x1] = ![m.p00 * x0 + m.p01 * x1, m.p10 * x0 + m.p11 * x1] := by
  funext i
  fin_cases i
  · simp [mat, mulVec, dotProduct, Fin.sum_univ_two]
  · simp [mat, mulVec, dotProduct, Fin.sum_univ_two]

omit [LinearOrder K] in
theorem vecMul_mat (m : SimpleRls K) (x0 x1 : K) : ![x0, x1] ᵥ* m.mat = ![x0 * m.p00 + x1 * m.p10, x0 * m.p01 + x1 * m.p11] := by
  funext i
  fin_cases i
  · simp [mat, vecMul, dotProduct, Fin.sum_univ_two]
  · simp [mat, vecMul, dotProduct, Fin.sum_univ_two]

omit [LinearOrder K] in
theorem denom_eq (m : SimpleRls K) (tokens : Int) : m.denom tokens =
    m.lam + tokenCount tokens * (m.p00 * tokenCount tokens + m.p01 * 1) + 1 * (m.p10 * tokenCount tokens + m.p11 * 1) := by
  unfold denom feature
  rw [mat_mulVec]
  simp [dotProduct, Fin.sum_univ_two, add_assoc]

omit [LinearOrder K] in
theorem gain_eq (m : SimpleRls K) (tokens : Int) : gain m.lam m.mat (feature tokens) =
    ![(m.p00 * tokenCount tokens + m.p01 * 1) / m.denom tokens, (m.p10 * tokenCount tokens + m.p11 * 1) / m.denom tokens] := by
  show (m.denom tokens)⁻¹ • m.mat *ᵥ ![tokenCount tokens, 1] = _
  rw [mat_mulVec]
  funext i
  fin_cases i
  · exact inv_mul_eq_div _ _
  · exact inv_mul_eq_div _ _

/-- Above the floor of the denominator the entries are updated by the rank-one rule. -/
theorem observe_mat {m : SimpleRls K} {s : Timing K} (h : 1 / 10 ^ 9 ≤ m.denom s.tokens) :
    (m.observe s).mat = downdate m.lam m.mat (feature s.tokens) := by
  have hmax := max_eq_right h
  rw [denom_eq] at hmax
  unfold downdate
  rw [gain_eq, denom_eq]
  show _ = m.lam⁻¹ • (m.mat - vecMulVec _ (![tokenCount s.tokens, 1] ᵥ* m.mat))
  rw [vecMul_mat]
  unfold observe update mat
  dsimp only
  rw [hmax]
  ext i j
  fin_cases i
  · fin_cases j
    · exact (inv_mul_eq_div _ _).symm
    · exact (inv_mul_eq_div _ _).symm
  · fin_cases j
    · exact (inv_mul_eq_div _ _).symm
    · exact (inv_mul_eq_div _ _).symm

theorem observe_params {m : SimpleRls K} {s : Timing K} (h : 1 / 10 ^ 9 ≤ m.denom s.tokens) (hu : m.Unclamped s) :
    (m.observe s).params = m.raw s := by
  have hraw : m.raw s = m.params + (s.actualMs - m.predict s.tokens) • gain m.lam m.mat (feature s.tokens) := by
    rw [predict_eq]
    rfl
  have hmax := max_eq_right h
  rw [denom_eq] at hmax
  have h0 := hu 0
  have h1 := hu 1
  rw [hraw, gain_eq, denom_eq] at h0 h1 ⊢
  unfold observe update
  dsimp only
  rw [hmax]
  funext i
  fin_cases i
  · show max (1 / 10) (m.slope + _) = m.slope + _
    rw [mul_comm]
    exact max_eq_right h0
  · show max (1 / 10) (m.intercept + _) = m.intercept + _
    rw [mul_comm]
    exact max_eq_right h1

/-! ## The normal matrix -/

/-- The discounted normal matrix of the samples, from a thousandth of the identity. -/
def normal (lam : K) (ss : List (Timing K)) : Matrix (Fin 2) (Fin 2) K :=
  lam ^ ss.length • (1 / 1000 : K) • 1 + discounted lam (fun s => vecMulVec (feature s.tokens) (feature s.tokens)) ss

/-- The discounted squared errors of the samples, and the distance from the initial parameters. -/
def cost (lam : K) (θ₀ : Fin 2 → K) (ss : List (Timing K)) (θ : Fin 2 → K) : K :=
  lam ^ ss.length * ((θ - θ₀) ⬝ᵥ (θ - θ₀)) / 1000 + discounted lam (fun s => (s.actualMs - feature s.tokens ⬝ᵥ θ) ^ 2) ss

omit [LinearOrder K] in
theorem normal_nil (lam : K) : normal lam ([] : List (Timing K)) = (1 / 1000 : K) • 1 := by
  simp [normal, discounted]

omit [LinearOrder K] in
theorem normal_concat (lam : K) (ss : List (Timing K)) (s : Timing K) :
    normal lam (ss ++ [s]) = enter lam (normal lam ss) (feature s.tokens) := by
  unfold normal enter
  rw [discounted_concat, List.length_append, List.length_singleton, pow_succ', mul_smul, smul_add, add_assoc]

omit [LinearOrder K] in
theorem cost_concat (lam : K) (θ₀ : Fin 2 → K) (ss : List (Timing K)) (s : Timing K) (θ : Fin 2 → K) :
    cost lam θ₀ (ss ++ [s]) θ = lam * cost lam θ₀ ss θ + (s.actualMs - feature s.tokens ⬝ᵥ θ) ^ 2 := by
  unfold cost
  rw [discounted_concat, List.length_append, List.length_singleton, pow_succ', smul_eq_mul]
  ring

variable [IsStrictOrderedRing K]

theorem normal_positive {lam : K} (hlam : 0 < lam) (ss : List (Timing K)) : Positive (normal lam ss) := by
  induction ss using List.reverseRecOn with
  | nil =>
    rw [normal_nil]
    exact .scalar (by positivity)
  | append_singleton ss s ih =>
    rw [normal_concat]
    exact ih.enter hlam _

/-- Under a strong discount the last sample outweighs the ones before it. -/
theorem normal_corner_le {lam : K} (hlam : 0 < lam) (hle : lam ≤ 1 / 2) (ss : List (Timing K)) : normal lam ss 1 1 ≤ 2 := by
  induction ss using List.reverseRecOn with
  | nil =>
    rw [normal_nil]
    norm_num [Matrix.smul_apply]
  | append_singleton ss s ih =>
    have hcorner : normal lam (ss ++ [s]) 1 1 = lam * normal lam ss 1 1 + 1 := by
      rw [normal_concat]
      simp [enter, feature]
    rw [hcorner]
    calc lam * normal lam ss 1 1 + 1 ≤ lam * 2 + 1 := by gcongr
      _ ≤ 1 / 2 * 2 + 1 := by gcongr
      _ = 2 := by norm_num

/-- The entries are the inverse of the normal matrix of the samples so far. -/
structure Inverts (m : SimpleRls K) (lam : K) (ss : List (Timing K)) : Prop where
  rate : m.lam = lam
  inverse : m.mat * normal lam ss = 1

variable {m : SimpleRls K} {lam : K} {ss : List (Timing K)}

theorem feature_ne_zero (tokens : Int) : (feature tokens : Fin 2 → K) ≠ 0 := by
  intro h
  exact one_ne_zero (congrFun h 1)

theorem Inverts.lt_denom (h : Inverts m lam ss) (hlam : 0 < lam) (tokens : Int) : lam < m.denom tokens := by
  unfold denom
  rw [h.rate]
  exact lt_add_of_pos_right lam (((normal_positive hlam ss).inverse h.inverse).pos _ (feature_ne_zero tokens))

theorem Inverts.denom_ne_zero (h : Inverts m lam ss) (hlam : 0 < lam) (tokens : Int) :
    lam + feature tokens ⬝ᵥ m.mat *ᵥ feature tokens ≠ 0 := by
  have hlt := h.lt_denom hlam tokens
  unfold denom at hlt
  rw [h.rate] at hlt
  exact (hlam.trans hlt).ne'

/-- The floor of the denominator is out of reach. -/
theorem Inverts.floor_lt_denom (h : Inverts m lam ss) (hlam : 0 < lam) (tokens : Int) : 1 / 10 ^ 9 < m.denom tokens := by
  have hsmall : (1 / 10 ^ 9 : K) < 1 / 2 := by norm_num
  rcases lt_or_ge (1 / 2) lam with hgt | hle
  · exact hsmall.trans (hgt.trans (h.lt_denom hlam tokens))
  · -- pairing the regressor with the intercept's axis bounds its form from below
    have hpair : feature tokens ⬝ᵥ ![(0 : K), 1] = 1 := by
      simp [feature, dotProduct, Fin.sum_univ_two]
    have hcorner : ![(0 : K), 1] ⬝ᵥ normal lam ss *ᵥ ![0, 1] = normal lam ss 1 1 := by
      simp [mulVec, dotProduct, Fin.sum_univ_two]
    have hone := (normal_positive hlam ss).one_le_mul h.inverse hpair
    rw [hcorner] at hone
    have hpos := ((normal_positive hlam ss).inverse h.inverse).pos _ (feature_ne_zero tokens)
    have hmul := mul_le_mul_of_nonneg_left (normal_corner_le hlam hle ss) hpos.le
    unfold denom
    rw [h.rate]
    linarith

theorem Inverts.observe (h : Inverts m lam ss) (hlam : 0 < lam) (s : Timing K) : Inverts (m.observe s) lam (ss ++ [s]) := by
  constructor
  · exact h.rate
  · rw [observe_mat (h.floor_lt_denom hlam s.tokens).le, normal_concat, h.rate]
    exact downdate_mul_enter hlam.ne' (h.denom_ne_zero hlam s.tokens) h.inverse

/-! ## The fit of a run -/

omit [LinearOrder K] [IsStrictOrderedRing K] in
theorem inverts_new (lam slope intercept : K) (h1000 : (1000 : K) ≠ 0) : Inverts (new lam slope intercept) lam [] := by
  constructor
  · rfl
  · have hmat : (new lam slope intercept).mat = (1000 : K) • 1 := by
      ext i j
      fin_cases i <;> fin_cases j <;> simp [new, init, mat]
    rw [normal_nil, hmat, smul_mul, Matrix.mul_smul, Matrix.one_mul, smul_smul, mul_one_div_cancel h1000, one_smul]

theorem inverts_run (hlam : 0 < lam) (slope intercept : K) (ss : List (Timing K)) :
    Inverts (Trace.play observe (new lam slope intercept) ss) lam ss := by
  induction ss using List.reverseRecOn with
  | nil => exact inverts_new lam slope intercept (by norm_num)
  | append_singleton ss s ih =>
    rw [Trace.play_append]
    exact ih.observe hlam s

/-- Until a clamp binds the parameters are the center of the cost. -/
theorem paraboloid_run (hlam : 0 < lam) (slope intercept : K) (ss : List (Timing K))
    (hu : Trace.Allowed observe Unclamped (new lam slope intercept) ss) :
    Paraboloid (normal lam ss) (cost lam ![slope, intercept] ss)
      (Trace.play observe (new lam slope intercept) ss).params := by
  induction ss using List.reverseRecOn with
  | nil =>
    intro θ
    have hparams : (Trace.play observe (new lam slope intercept) []).params = ![slope, intercept] := rfl
    rw [hparams, normal_nil, smul_mulVec, one_mulVec, dotProduct_smul]
    simp [cost, discounted, div_eq_inv_mul]
  | append_singleton ss s ih =>
    rw [Trace.allowed_append] at hu
    have hinv := inverts_run hlam slope intercept ss
    have hstep : (Trace.play observe (new lam slope intercept) (ss ++ [s])).params =
        (Trace.play observe (new lam slope intercept) ss).raw s := by
      rw [Trace.play_append]
      exact observe_params (hinv.floor_lt_denom hlam s.tokens).le hu.2.1
    have hcost : cost lam ![slope, intercept] (ss ++ [s]) =
        fun θ => lam * cost lam ![slope, intercept] ss θ + (s.actualMs - feature s.tokens ⬝ᵥ θ) ^ 2 :=
      funext fun θ => cost_concat lam _ ss s θ
    rw [hstep, hcost, normal_concat]
    unfold raw
    rw [hinv.rate]
    exact (ih hu.1).enter (normal_positive hlam ss).symm hinv.inverse _ (hinv.denom_ne_zero hlam s.tokens) _

/-- After any samples the entries are the inverse of the normal matrix, hence symmetric and positive, and the
denominator of the next gain is above the discount and its floor. As long as the clamps changed nothing, the
parameters are the only minimum of the discounted squared error. -/
theorem rls_exact (hlam : 0 < lam) (slope intercept : K) (ss : List (Timing K)) :
    ((Trace.play observe (new lam slope intercept) ss).mat * normal lam ss = 1 ∧
        Positive (Trace.play observe (new lam slope intercept) ss).mat ∧
        ∀ tokens, lam < (Trace.play observe (new lam slope intercept) ss).denom tokens ∧
          1 / 10 ^ 9 < (Trace.play observe (new lam slope intercept) ss).denom tokens) ∧
      (Trace.Allowed observe Unclamped (new lam slope intercept) ss →
        ∀ θ, θ ≠ (Trace.play observe (new lam slope intercept) ss).params →
          cost lam ![slope, intercept] ss (Trace.play observe (new lam slope intercept) ss).params <
            cost lam ![slope, intercept] ss θ) := by
  have hinv := inverts_run hlam slope intercept ss
  have hpos : Positive (normal lam ss) := normal_positive hlam ss
  constructor
  · refine ⟨hinv.inverse, hpos.inverse hinv.inverse, ?_⟩
    intro tokens
    exact ⟨hinv.lt_denom hlam tokens, hinv.floor_lt_denom hlam tokens⟩
  · intro hu θ hne
    exact (paraboloid_run hlam slope intercept ss hu).lt hpos hne

theorem rls_exact_default :
    ((Trace.play observe (new (99 / 100 : ℚ) 2 150) [⟨180, 12⟩]).mat * normal (99 / 100) [⟨180, 12⟩] = 1 ∧
        Positive (Trace.play observe (new (99 / 100 : ℚ) 2 150) [⟨180, 12⟩]).mat ∧
        ∀ tokens, 99 / 100 < (Trace.play observe (new (99 / 100 : ℚ) 2 150) [⟨180, 12⟩]).denom tokens ∧
          1 / 10 ^ 9 < (Trace.play observe (new (99 / 100 : ℚ) 2 150) [⟨180, 12⟩]).denom tokens) ∧
      (Trace.Allowed observe Unclamped (new (99 / 100 : ℚ) 2 150) [⟨180, 12⟩] →
        ∀ θ, θ ≠ (Trace.play observe (new (99 / 100 : ℚ) 2 150) [⟨180, 12⟩]).params →
          cost (99 / 100) ![2, 150] [⟨180, 12⟩] (Trace.play observe (new (99 / 100 : ℚ) 2 150) [⟨180, 12⟩]).params <
            cost (99 / 100) ![2, 150] [⟨180, 12⟩] θ) :=
  rls_exact (by norm_num) 2 150 [⟨180, 12⟩]

end SimpleRls

end Dio.Scheduler
