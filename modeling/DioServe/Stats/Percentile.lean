/-
Order statistics of a sample and the percentile interpolated linearly between two of them. Both
are monotone in the sample: raising observations raises every order statistic, hence the
percentile.
-/
import DioServe.Stats.Numerals
import Mathlib.Data.List.GetD
import Mathlib.Data.List.Sort
import Mathlib.Data.Rat.Floor
import Mathlib.Algebra.Order.Field.Basic
import Mathlib.Algebra.Order.Floor.Semiring
import Mathlib.Tactic.Linarith

namespace Stats

variable {K : Type} [LinearOrder K]

/-! ## Order statistics -/

/-- The sample in increasing order. -/
def sorted (xs : List K) : List K := xs.insertionSort (· ≤ ·)

theorem orderedInsert_le {a b : K} (hab : a ≤ b) : ∀ {l m : List K}, l.Pairwise (· ≤ ·) → m.Pairwise (· ≤ ·) →
    List.Forall₂ (· ≤ ·) l m →
    List.Forall₂ (· ≤ ·) (l.orderedInsert (· ≤ ·) a) (m.orderedInsert (· ≤ ·) b)
  | [], [], _, _, _ => .cons hab .nil
  | x :: l, y :: m, hl, hm, .cons hxy h => by
    rw [List.pairwise_cons] at hl hm
    -- inserting the head of a sorted list puts it back in front
    have hx : l.orderedInsert (· ≤ ·) x = x :: l := by
      cases l with
      | nil => rfl
      | cons x' l => exact List.orderedInsert_cons_of_le _ l (hl.1 x' (List.mem_cons_self ..))
    have hy : m.orderedInsert (· ≤ ·) y = y :: m := by
      cases m with
      | nil => rfl
      | cons y' m => exact List.orderedInsert_cons_of_le _ m (hm.1 y' (List.mem_cons_self ..))
    by_cases hax : a ≤ x
    · rw [List.orderedInsert_cons_of_le _ l hax]
      by_cases hby : b ≤ y
      · rw [List.orderedInsert_cons_of_le _ m hby]
        exact .cons hab (.cons hxy h)
      · have hyb : y ≤ b := le_of_not_ge hby
        rw [List.orderedInsert_of_not_le _ m hby, ← hx]
        exact .cons (hax.trans hxy) (orderedInsert_le (hxy.trans hyb) hl.2 hm.2 h)
    · have hxa : x ≤ a := le_of_not_ge hax
      rw [List.orderedInsert_of_not_le _ l hax]
      by_cases hby : b ≤ y
      · rw [List.orderedInsert_cons_of_le _ m hby, ← hy]
        exact .cons (hxa.trans hab) (orderedInsert_le (hab.trans hby) hl.2 hm.2 h)
      · rw [List.orderedInsert_of_not_le _ m hby]
        exact .cons hxy (orderedInsert_le hab hl.2 hm.2 h)

theorem sorted_eq_of_perm {xs ys : List K} (h : xs.Perm ys) : sorted xs = sorted ys :=
  List.Perm.eq_of_pairwise' (List.pairwise_insertionSort _ xs) (List.pairwise_insertionSort _ ys)
    ((List.perm_insertionSort _ xs).trans (h.trans (List.perm_insertionSort _ ys).symm))

/-- Raising observations raises every order statistic. -/
theorem sorted_le : ∀ {xs ys : List K}, List.Forall₂ (· ≤ ·) xs ys → List.Forall₂ (· ≤ ·) (sorted xs) (sorted ys)
  | [], [], .nil => .nil
  | _ :: xs, _ :: ys, .cons hxy h =>
    orderedInsert_le hxy (List.pairwise_insertionSort _ xs) (List.pairwise_insertionSort _ ys) (sorted_le h)

theorem pairwise_sorted (xs : List K) : (sorted xs).Pairwise (· ≤ ·) := List.pairwise_insertionSort _ xs

theorem mem_sorted {xs : List K} {x : K} : x ∈ sorted xs ↔ x ∈ xs := List.mem_insertionSort (· ≤ ·)

theorem length_sorted (xs : List K) : (sorted xs).length = xs.length := List.length_insertionSort (· ≤ ·) xs

theorem getD_mono {ys : List K} (h : ys.Pairwise (· ≤ ·)) (d : K) {i j : Nat} (hij : i ≤ j) (hj : j < ys.length) :
    ys.getD i d ≤ ys.getD j d := by
  rw [List.getD_eq_getElem _ _ (Nat.lt_of_le_of_lt hij hj), List.getD_eq_getElem _ _ hj]
  rcases Nat.eq_or_lt_of_le hij with rfl | hlt
  · exact le_refl _
  · exact List.pairwise_iff_getElem.1 h i j _ hj hlt

/-- The least observation stands first. -/
theorem sorted_getD_zero {xs : List K} {x : K} (hx : x ∈ xs) (hmin : ∀ y ∈ xs, x ≤ y) (d : K) : (sorted xs).getD 0 d = x := by
  have hlen : 0 < (sorted xs).length := List.length_pos_of_mem (mem_sorted.2 hx)
  obtain ⟨j, hj, rfl⟩ := List.mem_iff_getElem.1 (mem_sorted.2 hx)
  apply le_antisymm
  · rw [← List.getD_eq_getElem _ d hj]
    exact getD_mono (pairwise_sorted xs) d (Nat.zero_le j) hj
  · rw [List.getD_eq_getElem _ _ hlen]
    exact hmin _ (mem_sorted.1 (List.getElem_mem hlen))

theorem getD_le {d : K} : ∀ {xs ys : List K}, List.Forall₂ (· ≤ ·) xs ys → ∀ i, xs.getD i d ≤ ys.getD i d
  | [], [], .nil, _ => by simp
  | _ :: _, _ :: _, .cons h _, 0 => by simpa using h
  | _ :: _, _ :: _, .cons _ h, i + 1 => by simpa using getD_le h i

/-! ## The percentile -/

variable [Field K] [IsStrictOrderedRing K]

/-- The rank of the `p`-th percentile of `n` observations, between two indices. -/
def rank (n : Nat) (p : K) : K := max 0 (min 100 p) / 100 * ((n - 1 : Nat) : K)

theorem rank_nonneg (n : Nat) (p : K) : 0 ≤ rank n p :=
  mul_nonneg (div_nonneg (le_max_left _ _) (by norm_num)) (Nat.cast_nonneg _)

variable [FloorRing K]

/-- The value at a fractional rank of an increasing list. -/
def atRank (ys : List K) (k : K) : K :=
  if ⌊k⌋₊ = ⌈k⌉₊ then ys.getD ⌊k⌋₊ 0
  else ys.getD ⌊k⌋₊ 0 * (1 - (k - ⌊k⌋₊)) + ys.getD ⌈k⌉₊ 0 * (k - ⌊k⌋₊)

/-- The `p`-th percentile of a sample, `0` of none. -/
def percentile (xs : List K) (p : K) : K :=
  match sorted xs with
  | [] => 0
  | [y] => y
  | ys => atRank ys (rank ys.length p)

/-- The fractional part by which a rank is interpolated. -/
theorem fract_mem_Icc {k : K} (hk : 0 ≤ k) : 0 ≤ k - (⌊k⌋₊ : K) ∧ 0 ≤ 1 - (k - (⌊k⌋₊ : K)) := by
  have hlo : (⌊k⌋₊ : K) ≤ k := Nat.floor_le hk
  have hhi : k < (⌊k⌋₊ : K) + 1 := Nat.lt_floor_add_one k
  constructor <;> linarith

theorem atRank_le {xs ys : List K} (h : List.Forall₂ (· ≤ ·) xs ys) {k : K} (hk : 0 ≤ k) :
    atRank xs k ≤ atRank ys k := by
  obtain ⟨h0, h1⟩ := fract_mem_Icc hk
  unfold atRank
  split
  · exact getD_le h _
  · exact add_le_add (mul_le_mul_of_nonneg_right (getD_le h _) h1) (mul_le_mul_of_nonneg_right (getD_le h _) h0)

/-- The value at a rank lies between the two it is interpolated from. -/
theorem atRank_mem_Icc {ys : List K} (h : ys.Pairwise (· ≤ ·)) {k : K} (hk : 0 ≤ k) (hlen : ⌈k⌉₊ < ys.length) :
    ys.getD ⌊k⌋₊ 0 ≤ atRank ys k ∧ atRank ys k ≤ ys.getD ⌈k⌉₊ 0 := by
  have hle : ys.getD ⌊k⌋₊ 0 ≤ ys.getD ⌈k⌉₊ 0 := getD_mono h 0 (Nat.floor_le_ceil k) hlen
  obtain ⟨h0, h1⟩ := fract_mem_Icc hk
  unfold atRank
  split
  · exact ⟨le_refl _, hle⟩
  · generalize ys.getD ⌊k⌋₊ 0 = lo at hle
    generalize ys.getD ⌈k⌉₊ 0 = hi at hle
    generalize k - (⌊k⌋₊ : K) = t at h0 h1
    constructor
    · calc lo = lo * (1 - t) + lo * t := by ring
        _ ≤ lo * (1 - t) + hi * t := add_le_add_right (mul_le_mul_of_nonneg_right hle h0) _
    · calc lo * (1 - t) + hi * t ≤ hi * (1 - t) + hi * t := add_le_add_left (mul_le_mul_of_nonneg_right hle h1) _
        _ = hi := by ring

omit [IsStrictOrderedRing K] in
/-- The value at a rank, interpolated whether or not the rank is an index. -/
theorem atRank_eq (ys : List K) {k : K} (hk : 0 ≤ k) :
    atRank ys k = ys.getD ⌊k⌋₊ 0 * (1 - (k - ⌊k⌋₊)) + ys.getD ⌈k⌉₊ 0 * (k - ⌊k⌋₊) := by
  unfold atRank
  split
  · rename_i heq
    have hle : k ≤ (⌊k⌋₊ : K) := by rw [heq]; exact Nat.le_ceil k
    have hfract : k - (⌊k⌋₊ : K) = 0 := sub_eq_zero.2 (le_antisymm hle (Nat.floor_le hk))
    rw [hfract]
    ring
  · rfl

/-- The value at a rank grows with the rank, within two neighbouring indices and across them. -/
theorem atRank_mono {ys : List K} (h : ys.Pairwise (· ≤ ·)) {k l : K} (hk : 0 ≤ k) (hkl : k ≤ l)
    (hlen : ⌈l⌉₊ < ys.length) : atRank ys k ≤ atRank ys l := by
  have hl : 0 ≤ l := hk.trans hkl
  have hfloor : ⌊k⌋₊ ≤ ⌊l⌋₊ := Nat.floor_mono hkl
  have hceil : ⌈k⌉₊ ≤ ⌈l⌉₊ := Nat.ceil_mono hkl
  have hlo := (atRank_mem_Icc h hl hlen).1
  have hhi := (atRank_mem_Icc h hk (by omega)).2
  by_cases hcross : ⌈k⌉₊ ≤ ⌊l⌋₊
  · -- an index lies between the two ranks
    have hmid : ys.getD ⌈k⌉₊ 0 ≤ ys.getD ⌊l⌋₊ 0 := getD_mono h 0 hcross (by have := Nat.floor_le_ceil l; omega)
    exact hhi.trans (hmid.trans hlo)
  · have hk1 : ⌈k⌉₊ ≤ ⌊k⌋₊ + 1 := Nat.ceil_le_floor_add_one k
    have hl1 : ⌈l⌉₊ ≤ ⌊l⌋₊ + 1 := Nat.ceil_le_floor_add_one l
    have hf : ⌊k⌋₊ = ⌊l⌋₊ := by omega
    have hc : ⌈k⌉₊ = ⌈l⌉₊ := by omega
    have hle : ys.getD ⌊l⌋₊ 0 ≤ ys.getD ⌈l⌉₊ 0 := getD_mono h 0 (Nat.floor_le_ceil l) hlen
    rw [atRank_eq ys hk, atRank_eq ys hl, hf, hc]
    generalize ys.getD ⌊l⌋₊ 0 = lo at hle
    generalize ys.getD ⌈l⌉₊ 0 = hi at hle
    generalize (⌊l⌋₊ : K) = m
    calc lo * (1 - (k - m)) + hi * (k - m) = lo + (hi - lo) * (k - m) := by ring
      _ ≤ lo + (hi - lo) * (l - m) :=
        add_le_add_right (mul_le_mul_of_nonneg_left (sub_le_sub_right hkl m) (sub_nonneg.2 hle)) lo
      _ = lo * (1 - (l - m)) + hi * (l - m) := by ring

omit [FloorRing K] in
theorem rank_mono (n : Nat) {p q : K} (hpq : p ≤ q) : rank n p ≤ rank n q := by
  have hclamp : max 0 (min 100 p) ≤ max 0 (min 100 q) := max_le_max (le_refl 0) (min_le_min (le_refl 100) hpq)
  exact mul_le_mul_of_nonneg_right (div_le_div_of_nonneg_right hclamp (by norm_num)) (Nat.cast_nonneg _)

omit [IsStrictOrderedRing K] in
theorem percentile_eq_atRank {xs : List K} (h : 2 ≤ xs.length) (p : K) :
    percentile xs p = atRank (sorted xs) (rank xs.length p) := by
  rw [← length_sorted] at h
  unfold percentile
  rw [← length_sorted xs]
  generalize sorted xs = ys at h
  cases ys with
  | nil => simp at h
  | cons y ys =>
    cases ys with
    | nil => simp at h
    | cons z ys => rfl

omit [IsStrictOrderedRing K] in
/-- The percentile of one observation is that observation, and of none `0`. -/
theorem percentile_eq_of_length_lt {xs : List K} (h : xs.length < 2) (p : K) : percentile xs p = (sorted xs).getD 0 0 := by
  rw [← length_sorted] at h
  unfold percentile
  generalize sorted xs = ys at h
  cases ys with
  | nil => rfl
  | cons y ys =>
    cases ys with
    | nil => rfl
    | cons z ys => simp only [List.length_cons] at h; omega

omit [FloorRing K] in
/-- The rank of the upper quartile. -/
theorem rank_75 (n : Nat) : rank n (75 : K) = 3 / 4 * ((n - 1 : Nat) : K) := by
  have h1 : min (100 : K) 75 = 75 := min_eq_right (by norm_num)
  have h2 : max (0 : K) 75 = 75 := max_eq_right (by norm_num)
  rw [rank, h1, h2]
  norm_num

/-- Ranks are indices. -/
theorem ceil_rank_lt {n : Nat} (hn : 0 < n) (p : K) : ⌈rank n p⌉₊ < n := by
  have hle : rank n p ≤ ((n - 1 : Nat) : K) := by
    have hp : max 0 (min 100 p) / 100 ≤ (1 : K) :=
      div_le_one_of_le₀ (max_le (by norm_num) (min_le_left _ _)) (by norm_num)
    exact mul_le_of_le_one_left (Nat.cast_nonneg _) hp
  have hceil : ⌈rank n p⌉₊ ≤ n - 1 := Nat.ceil_le.2 hle
  omega

omit [IsStrictOrderedRing K] in
/-- The percentile does not depend on the order of the observations. -/
theorem percentile_eq_of_perm {xs ys : List K} (h : xs.Perm ys) (p : K) : percentile xs p = percentile ys p := by
  unfold percentile; rw [sorted_eq_of_perm h]

/-- The upper quartile of two observations. -/
theorem percentile_pair {a b : K} (hab : a ≤ b) : percentile [a, b] 75 = a * (1 / 4) + b * (3 / 4) := by
  have hs : sorted [a, b] = [a, b] := by
    simp [sorted, List.insertionSort, hab]
  have hr : rank 2 (75 : K) = 3 / 4 := by rw [rank_75]; norm_num
  have hf : ⌊(3 / 4 : K)⌋₊ = 0 := Nat.floor_eq_zero.2 (by norm_num)
  have hc : ⌈(3 / 4 : K)⌉₊ = 1 := by
    rw [Nat.ceil_eq_iff (by norm_num)]; norm_num
  unfold percentile
  rw [hs]
  simp only [List.length_cons, List.length_nil, Nat.reduceAdd, hr, atRank, hf, hc]
  norm_num

/-- The percentile grows with `p`. -/
theorem percentile_mono (xs : List K) {p q : K} (hpq : p ≤ q) : percentile xs p ≤ percentile xs q := by
  by_cases hlen : 2 ≤ xs.length
  · rw [percentile_eq_atRank hlen, percentile_eq_atRank hlen]
    refine atRank_mono (pairwise_sorted xs) (rank_nonneg _ p) (rank_mono _ hpq) ?_
    rw [length_sorted]
    exact ceil_rank_lt (by omega) q
  · rw [percentile_eq_of_length_lt (by omega) p, percentile_eq_of_length_lt (by omega) q]

/-- The percentile lies between bounds of the observations. -/
theorem percentile_mem_Icc {xs : List K} (hne : xs ≠ []) {a b : K} (ha : ∀ x ∈ xs, a ≤ x) (hb : ∀ x ∈ xs, x ≤ b)
    (p : K) : a ≤ percentile xs p ∧ percentile xs p ≤ b := by
  have hpos : 0 < xs.length := List.length_pos_of_ne_nil hne
  have hmem : ∀ i, i < xs.length → (sorted xs).getD i 0 ∈ xs := by
    intro i hi
    rw [← length_sorted] at hi
    rw [List.getD_eq_getElem _ _ hi]
    exact mem_sorted.1 (List.getElem_mem hi)
  by_cases hlen : 2 ≤ xs.length
  · have hceil : ⌈rank xs.length p⌉₊ < xs.length := ceil_rank_lt hpos p
    have hfloor : ⌊rank xs.length p⌋₊ < xs.length := (Nat.floor_le_ceil _).trans_lt hceil
    obtain ⟨hlo, hhi⟩ := atRank_mem_Icc (pairwise_sorted xs) (rank_nonneg _ p) (by rw [length_sorted]; exact hceil)
    rw [percentile_eq_atRank hlen]
    exact ⟨(ha _ (hmem _ hfloor)).trans hlo, hhi.trans (hb _ (hmem _ hceil))⟩
  · rw [percentile_eq_of_length_lt (by omega)]
    exact ⟨ha _ (hmem 0 hpos), hb _ (hmem 0 hpos)⟩

/-- Raising observations raises the percentile. -/
theorem percentile_le {xs ys : List K} (h : List.Forall₂ (· ≤ ·) xs ys) (p : K) :
    percentile xs p ≤ percentile ys p := by
  have hs : List.Forall₂ (· ≤ ·) (sorted xs) (sorted ys) := sorted_le h
  unfold percentile
  generalize sorted xs = l, sorted ys = m at hs
  cases hs with
  | nil => exact le_refl _
  | cons hxy hs' =>
    cases hs' with
    | nil => exact hxy
    | cons hxy' hs'' =>
      have hlen := hs''.length_eq
      simp only [List.length_cons, hlen]
      exact atRank_le (.cons hxy (.cons hxy' hs'')) (rank_nonneg _ _)

end Stats
