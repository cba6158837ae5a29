/-
The percentile both admission modes compare with the SLO (`scheduler.py`, `_percentile`): computed on
the sorted window, between two order statistics where the rank is no index. It lies between the least
and the greatest observation, is a function of the window as a bag, and grows with `p` and with every
observation, so the strict gate does not let through what it shed on faster requests.
-/
import DioServe.Scheduler.Pick

namespace Dio.Scheduler

variable {K : Type} [Field K] [LinearOrder K] [FloorRing K]

/-- `_percentile`. -/
def percentile (xs : List K) (p : K) : K :=
  if xs = [] then 0
  else
    let ys := Stats.sorted xs
    if ys.length = 1 then ys.getD 0 0
    else
      let k := max 0 (min 100 p) / 100 * ((ys.length - 1 : Nat) : K)
      let lo := ⌊k⌋
      let hi := ⌈k⌉
      if lo = hi then ys.getD lo.toNat 0
      else
        let t := k - lo
        ys.getD lo.toNat 0 * (1 - t) + ys.getD hi.toNat 0 * t

section Ordered

variable [IsStrictOrderedRing K]

/-! ## On the order statistics -/

omit [IsStrictOrderedRing K] in
/-- The two branches at a rank, with the bounds as the natural numbers they are. -/
theorem interpolated_eq (ys : List K) {k : K} (hk : 0 ≤ k) :
    (if ⌊k⌋ = ⌈k⌉ then ys.getD ⌊k⌋.toNat 0
      else ys.getD ⌊k⌋.toNat 0 * (1 - (k - (⌊k⌋ : K))) + ys.getD ⌈k⌉.toNat 0 * (k - (⌊k⌋ : K))) = Stats.atRank ys k := by
  have hlo : (⌊k⌋₊ : ℤ) = ⌊k⌋ := Int.natCast_floor_eq_floor hk
  have hhi : (⌈k⌉₊ : ℤ) = ⌈k⌉ := Int.natCast_ceil_eq_ceil hk
  unfold Stats.atRank
  rw [← hlo, ← hhi, Int.toNat_natCast, Int.toNat_natCast, Int.cast_natCast]
  simp only [Nat.cast_inj]

theorem percentile_eq (xs : List K) (p : K) : percentile xs p = Stats.percentile xs p := by
  unfold percentile
  split
  · rename_i hnil; subst hnil; rfl
  · rename_i hne
    have hpos : 0 < xs.length := List.length_pos_of_ne_nil hne
    dsimp only
    rw [Stats.length_sorted]
    split
    · rename_i hone
      rw [Stats.percentile_eq_of_length_lt (by omega)]
    · rename_i hone
      rw [Stats.percentile_eq_atRank (by omega)]
      exact interpolated_eq (Stats.sorted xs) (Stats.rank_nonneg xs.length p)

/-- Both reads of the sorted window are within it. -/
theorem percentile_reads_lt {xs : List K} (hne : xs ≠ []) (p : K) :
    ⌊Stats.rank xs.length p⌋.toNat < xs.length ∧ ⌈Stats.rank xs.length p⌉.toNat < xs.length := by
  have hhi : ⌈Stats.rank xs.length p⌉₊ < xs.length := Stats.ceil_rank_lt (List.length_pos_of_ne_nil hne) p
  rw [Int.floor_toNat, Int.ceil_toNat]
  exact ⟨(Nat.floor_le_ceil _).trans_lt hhi, hhi⟩

/-- The gate looks at this percentile of its window. -/
theorem observedTail_eq (cfg : Cfg K) (recent : List K) :
    observedTail cfg recent = percentile recent cfg.admissionPercentile := (percentile_eq _ _).symm

/-! ## How it behaves -/

omit [Field K] [FloorRing K] [IsStrictOrderedRing K] in
/-- Raising one observation. -/
theorem set_ge : ∀ {xs : List K} {i : Nat} (h : i < xs.length) {x : K}, xs[i] ≤ x →
    List.Forall₂ (· ≤ ·) xs (xs.set i x)
  | _ :: ys, 0, _, _, hx => .cons hx (List.forall₂_refl ys)
  | y :: _, _ + 1, h, _, hx => .cons (le_refl y) (set_ge (Nat.lt_of_succ_lt_succ h) hx)

/-- The percentile is within the window, whatever its order, and grows with `p` and with every
observation. -/
theorem percentile_behaves {xs : List K} (hne : xs ≠ []) {p q : K} (hpq : p ≤ q) :
    (xs.min hne ≤ percentile xs p ∧ percentile xs p ≤ xs.max hne) ∧
    (∀ ys : List K, ys.Perm xs → percentile ys p = percentile xs p) ∧
    percentile xs p ≤ percentile xs q ∧
    (∀ (i : Nat) (h : i < xs.length) (x : K), xs[i] ≤ x → percentile xs p ≤ percentile (xs.set i x) p) := by
  simp only [percentile_eq]
  refine ⟨?_, ?_, ?_, ?_⟩
  · exact Stats.percentile_mem_Icc hne (fun x hx => List.min_le_of_mem hx) (fun x hx => List.le_max_of_mem hx) p
  · intro ys hys
    exact Stats.percentile_eq_of_perm hys p
  · exact Stats.percentile_mono xs hpq
  · intro i h x hx
    exact Stats.percentile_le (set_ge h hx) p

/-- Four requests, and the second of them slower. -/
theorem percentile_behaves_four :
    (10 ≤ percentile ([30, 10, 20, 40] : List ℚ) 50 ∧ percentile ([30, 10, 20, 40] : List ℚ) 50 ≤ 40) ∧
    percentile ([10, 20, 30, 40] : List ℚ) 50 = percentile [30, 10, 20, 40] 50 ∧
    percentile ([30, 10, 20, 40] : List ℚ) 50 ≤ percentile [30, 10, 20, 40] 95 ∧
    percentile ([30, 10, 20, 40] : List ℚ) 50 ≤ percentile [30, 25, 20, 40] 50 := by
  have hne : ([30, 10, 20, 40] : List ℚ) ≠ [] := List.cons_ne_nil _ _
  obtain ⟨hbounds, hperm, hmono, hset⟩ := percentile_behaves hne (show (50 : ℚ) ≤ 95 by norm_num)
  refine ⟨hbounds, hperm _ (by decide), hmono, ?_⟩
  exact hset 1 (by decide) 25 (by norm_num)

/-! ## The strict gate -/

/-- What the strict gate shed it sheds on slower requests too, and at a higher percentile or a tighter
SLO. -/
theorem strictGate_rejects_of_le {cfg cfg' : Cfg K} (hp : cfg.admissionPercentile ≤ cfg'.admissionPercentile)
    (hslo : cfg'.sloMs ≤ cfg.sloMs) {recent recent' : List K} (h : List.Forall₂ (· ≤ ·) recent recent')
    (hshed : (strictGate cfg recent).reject = true) : (strictGate cfg' recent').reject = true := by
  unfold strictGate at hshed ⊢
  rw [← h.length_eq]
  split at hshed
  · cases hshed
  · rename_i hwarm
    rw [if_neg hwarm]
    split at hshed
    · rename_i htail
      have htail' : observedTail cfg' recent' > cfg'.sloMs := by
        calc cfg'.sloMs ≤ cfg.sloMs := hslo
          _ < observedTail cfg recent := htail
          _ ≤ observedTail cfg' recent := Stats.percentile_mono recent hp
          _ ≤ observedTail cfg' recent' := Stats.percentile_le h _
      rw [if_pos htail']
    · cases hshed

end Ordered

end Dio.Scheduler
