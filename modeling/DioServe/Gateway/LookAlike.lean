/-
Which metric a reading takes (`engine_metrics.py`, `_first`). A listed name that is no metric is tried
as a suffix before the next name is tried at all, so a metric whose name merely ends like an early name
is read in place of the later name that is there. The reading is right exactly when no such look-alike
comes first, or the first of them happens to carry the same value.
-/
import DioServe.Gateway.Metrics

namespace Dio.Gateway

open Data

variable {K : Type}

/-! ## Look-alikes -/

/-- The value of the first listed name that is a metric. -/
def documented (metrics : Dict String K) (names : List String) : Option K := names.findSome? (Dict.get? metrics)

/-- The name of a metric ends in the part of a listed name after its colon. -/
def LooksLike (n k : String) : Prop := bareName n <:+ k.toList

/-- The first metric, in the order of the mapping, that looks like `n`. -/
def FirstLookAlike (metrics : Dict String K) (n : String) (p : String × K) : Prop :=
  LooksLike n p.1 ∧ ∃ front back, metrics = front ++ p :: back ∧ ∀ q ∈ front, ¬ LooksLike n q.1

/-- A listed name that is no metric, before which no listed name has even a look-alike. -/
structure Exposed (metrics : Dict String K) (names : List String) (n : String) : Prop where
  missing : n ∉ Dict.keys metrics
  reached : ∃ earlier later, names = earlier ++ n :: later ∧ ∀ m ∈ earlier, ∀ q ∈ metrics, ¬ LooksLike m q.1

/-- The first look-alike of an exposed name has the value `v`. -/
def Spared (metrics : Dict String K) (names : List String) (v : K) : Prop :=
  ∀ n p, Exposed metrics names n → FirstLookAlike metrics n p → p.2 = v

theorem bareName_suffix (n : String) : bareName n <:+ n.toList := by
  unfold bareName
  split
  · exact List.suffix_refl _
  · rename_i c rest h
    have hdrop : c :: rest <:+ n.toList := by
      rw [← h]
      exact List.dropWhile_suffix _
    exact (List.suffix_cons c rest).trans hdrop

/-- A metric looks like itself. -/
theorem looksLike_self (n : String) : LooksLike n n := bareName_suffix n

/-- The test of the fallback. -/
theorem endsInBare_iff (n k : String) :
    ((bareName n).isSuffixOf k.toList || k.toList == bareName n) = true ↔ LooksLike n k := by
  rw [Bool.or_eq_true, List.isSuffixOf_iff_suffix, beq_iff_eq]
  constructor
  · rintro (h | h)
    · exact h
    · unfold LooksLike
      rw [h]
  · exact .inl

/-- The metric the fallback takes for `n`. -/
def lookAlike? (metrics : Dict String K) (n : String) : Option (String × K) :=
  metrics.find? fun p => (bareName n).isSuffixOf p.1.toList || p.1.toList == bareName n

theorem lookAlike?_eq_some_iff {metrics : Dict String K} {n : String} {p : String × K} :
    lookAlike? metrics n = some p ↔ FirstLookAlike metrics n p := by
  unfold lookAlike? FirstLookAlike
  rw [List.find?_eq_some_iff_append, endsInBare_iff]
  simp only [← endsInBare_iff, Bool.not_eq_true, Bool.not_eq_true']

theorem lookAlike?_eq_none_iff {metrics : Dict String K} {n : String} :
    lookAlike? metrics n = none ↔ ∀ q ∈ metrics, ¬ LooksLike n q.1 := by
  unfold lookAlike?
  rw [List.find?_eq_none]
  simp only [endsInBare_iff]

theorem FirstLookAlike.mem {metrics : Dict String K} {n : String} {p : String × K} (h : FirstLookAlike metrics n p) :
    p ∈ metrics := by
  obtain ⟨-, front, back, rfl, -⟩ := h
  exact List.mem_append_right front (List.mem_cons_self ..)

theorem FirstLookAlike.unique {metrics : Dict String K} {n : String} {p q : String × K}
    (hp : FirstLookAlike metrics n p) (hq : FirstLookAlike metrics n q) : p = q :=
  Option.some.inj ((lookAlike?_eq_some_iff.2 hp).symm.trans (lookAlike?_eq_some_iff.2 hq))

/-! ## One name after another -/

theorem documented_cons (metrics : Dict String K) (n : String) (ns : List String) :
    documented metrics (n :: ns) = (Dict.get? metrics n).or (documented metrics ns) := by
  unfold documented
  rw [List.findSome?_cons]
  cases Dict.get? metrics n <;> rfl

/-- A name is looked up, then tried as a suffix, and then the next one is. -/
theorem first_cons (metrics : Dict String K) (n : String) (ns : List String) :
    first metrics (n :: ns) = (Dict.get? metrics n).or (((lookAlike? metrics n).map Prod.snd).or (first metrics ns)) := by
  rw [first]
  unfold lookAlike?
  cases Dict.get? metrics n with
  | some v => rfl
  | none =>
    cases metrics.find? fun p => (bareName n).isSuffixOf p.1.toList || p.1.toList == bareName n <;> rfl

theorem exposed_head {metrics : Dict String K} {n : String} (h : n ∉ Dict.keys metrics) (ns : List String) :
    Exposed metrics (n :: ns) n := ⟨h, [], ns, rfl, fun _ hm => (List.not_mem_nil hm).elim⟩

/-- Behind a name that has a look-alike nothing is exposed. -/
theorem Exposed.eq_head {metrics : Dict String K} {n m : String} {ns : List String} {q : String × K}
    (hq : q ∈ metrics) (hlike : LooksLike n q.1) (h : Exposed metrics (n :: ns) m) : m = n := by
  obtain ⟨-, earlier, later, heq, hnone⟩ := h
  cases earlier with
  | nil => exact (List.cons.inj heq).1.symm
  | cons n' earlier =>
    obtain ⟨rfl, -⟩ := List.cons.inj heq
    exact absurd hlike (hnone n (List.mem_cons_self ..) q hq)

/-- Behind a name without a look-alike exactly the same names are exposed as without it. -/
theorem exposed_cons_iff {metrics : Dict String K} {n m : String} {ns : List String}
    (hnone : ∀ q ∈ metrics, ¬ LooksLike n q.1) (hm : m ≠ n) :
    Exposed metrics (n :: ns) m ↔ Exposed metrics ns m := by
  constructor
  · rintro ⟨hmiss, earlier, later, heq, hbefore⟩
    cases earlier with
    | nil => exact absurd (List.cons.inj heq).1.symm hm
    | cons n' earlier =>
      exact ⟨hmiss, earlier, later, (List.cons.inj heq).2, fun x hx => hbefore x (List.mem_cons_of_mem _ hx)⟩
  · rintro ⟨hmiss, earlier, later, rfl, hbefore⟩
    refine ⟨hmiss, n :: earlier, later, rfl, ?_⟩
    intro x hx
    rcases List.mem_cons.1 hx with rfl | hx
    · exact hnone
    · exact hbefore x hx

/-- A name that is a metric spares every name behind it. -/
theorem spared_of_get? {metrics : Dict String K} {n : String} {w : K} (h : Dict.get? metrics n = some w)
    (ns : List String) (v : K) : Spared metrics (n :: ns) v := by
  intro m p hm hp
  have heq : m = n := hm.eq_head (Dict.mem_of_get? h) (looksLike_self n)
  exact absurd (Dict.mem_keys_of_get? h) (heq ▸ hm.missing)

/-- A name that is no metric and has a look-alike is read off the first one. -/
theorem spared_cons_of_lookAlike {metrics : Dict String K} {n : String} {p : String × K}
    (hmiss : n ∉ Dict.keys metrics) (hp : FirstLookAlike metrics n p) (ns : List String) (v : K) :
    Spared metrics (n :: ns) v ↔ p.2 = v := by
  constructor
  · intro h
    exact h n p (exposed_head hmiss ns) hp
  · intro hv m q hm hq
    have heq : m = n := hm.eq_head hp.mem hp.1
    subst heq
    rw [← hp.unique hq]
    exact hv

theorem spared_cons_of_no_lookAlike {metrics : Dict String K} {n : String}
    (hnone : ∀ q ∈ metrics, ¬ LooksLike n q.1) (ns : List String) (v : K) :
    Spared metrics (n :: ns) v ↔ Spared metrics ns v := by
  refine forall_congr' fun m => forall_congr' fun p => ?_
  by_cases hm : m = n
  · -- nothing looks like the name, so both sides are empty of look-alikes
    subst hm
    have hno : ¬ FirstLookAlike metrics m p := fun hp => hnone p hp.mem hp.1
    simp only [hno, false_implies, implies_true]
  · rw [exposed_cons_iff hnone hm]

/-- The reading is that of the first listed name that is a metric, exactly when it is spared. -/
theorem first_iff_spared {metrics : Dict String K} {v : K} : ∀ {names : List String},
    documented metrics names = some v → (first metrics names = some v ↔ Spared metrics names v)
  | [], h => by cases h
  | n :: ns, h => by
    rw [documented_cons] at h
    rw [first_cons]
    cases hget : Dict.get? metrics n with
    | some w =>
      rw [hget] at h
      exact iff_of_true h (spared_of_get? hget ns v)
    | none =>
      rw [hget, Option.none_or] at h
      have hmiss : n ∉ Dict.keys metrics := Dict.get?_eq_none_iff.1 hget
      rw [Option.none_or]
      cases hlike : lookAlike? metrics n with
      | some p =>
        rw [spared_cons_of_lookAlike hmiss (lookAlike?_eq_some_iff.1 hlike)]
        simp
      | none =>
        rw [spared_cons_of_no_lookAlike (lookAlike?_eq_none_iff.1 hlike)]
        exact first_iff_spared h

/-! ## The KV cache of a snapshot -/

/-- The names `snapshot_from_metrics` lists for the KV cache. -/
def kvCacheNames : List String :=
  ["vllm:gpu_cache_usage_perc", "vllm:kv_cache_usage_perc", "gpu_cache_usage_perc", "kv_cache_usage_perc"]

/-- A spared metric of the KV cache is the one a snapshot reports. -/
theorem kvCacheUsage_of_spared [Field K] [LinearOrder K] {metrics : Dict String K} {v : K}
    (hdoc : documented metrics kvCacheNames = some v) (h : Spared metrics kvCacheNames v) :
    (snapshotFromMetrics metrics).kvCacheUsage = unitClamp v := by
  have hfirst : first metrics kvCacheNames = some v := (first_iff_spared hdoc).2 h
  have hne : metrics ≠ [] := by
    rintro rfl
    simp [documented, kvCacheNames, List.findSome?] at hdoc
  unfold snapshotFromMetrics
  rw [if_neg hne]
  show ((first metrics kvCacheNames).map unitClamp).getD 0 = unitClamp v
  rw [hfirst]
  rfl

/-! ## Any order of the lines -/

theorem documented_eq_of_perm {metrics metrics' : Dict String K} (hd : (Dict.keys metrics).Nodup)
    (h : metrics.Perm metrics') (names : List String) : documented metrics names = documented metrics' names := by
  have hget : Dict.get? metrics = Dict.get? metrics' := funext (Dict.get?_eq_of_perm hd h)
  unfold documented
  rw [hget]

theorem Exposed.of_perm {metrics metrics' : Dict String K} (h : metrics.Perm metrics') {names : List String} {n : String}
    (hn : Exposed metrics names n) : Exposed metrics' names n := by
  obtain ⟨hmiss, earlier, later, heq, hnone⟩ := hn
  refine ⟨?_, earlier, later, heq, ?_⟩
  · intro hkey
    exact hmiss ((h.map Prod.fst).mem_iff.2 hkey)
  · intro m hm q hq
    exact hnone m hm q (h.mem_iff.2 hq)

/-- Some order puts any given look-alike first. -/
theorem spared_every_order_iff {metrics : Dict String K} {names : List String} {v : K} :
    (∀ metrics' : Dict String K, metrics.Perm metrics' → Spared metrics' names v) ↔
      ∀ n q, Exposed metrics names n → q ∈ metrics → LooksLike n q.1 → q.2 = v := by
  constructor
  · intro h n q hn hq hlike
    obtain ⟨front, back, rfl⟩ := List.append_of_mem hq
    have hperm : (front ++ q :: back).Perm (q :: (front ++ back)) := List.perm_middle
    refine h _ hperm n q (hn.of_perm hperm) ⟨hlike, [], front ++ back, rfl, ?_⟩
    intro x hx
    cases hx
  · intro h metrics' hperm n p hn hp
    exact h n p (hn.of_perm hperm.symm) (hperm.mem_iff.2 hp.mem) hp.1

/-- A listed name that is a metric is read exactly when it is spared, and in every order of the lines
exactly when all look-alikes of an exposed name have its value. -/
theorem reads_documented_iff {metrics : Dict String K} {names : List String} {v : K}
    (h : documented metrics names = some v) :
    (first metrics names = some v ↔ Spared metrics names v) ∧
    ((Dict.keys metrics).Nodup →
      ((∀ metrics' : Dict String K, metrics.Perm metrics' → first metrics' names = some v) ↔
        ∀ n q, Exposed metrics names n → q ∈ metrics → LooksLike n q.1 → q.2 = v)) := by
  refine ⟨first_iff_spared h, ?_⟩
  intro hd
  rw [← spared_every_order_iff]
  refine forall_congr' fun metrics' => forall_congr' fun hperm => ?_
  exact first_iff_spared (by rw [← documented_eq_of_perm hd hperm]; exact h)

/-- The KV cache of an engine and of its offload tier, under some name. -/
def kvAndOffload (offload : String) : Dict String ℚ := [(offload, 1 / 10), ("vllm:kv_cache_usage_perc", 99 / 100)]

/-- An offload tier whose metric looks only like the name that is there. -/
theorem reads_documented_kv :
    (first (kvAndOffload "offload:kv_cache_usage_perc") kvCacheNames = some (99 / 100) ↔
      Spared (kvAndOffload "offload:kv_cache_usage_perc") kvCacheNames (99 / 100)) ∧
    ((∀ metrics', (kvAndOffload "offload:kv_cache_usage_perc").Perm metrics' →
        first metrics' kvCacheNames = some (99 / 100)) ↔
      ∀ n q, Exposed (kvAndOffload "offload:kv_cache_usage_perc") kvCacheNames n →
        q ∈ kvAndOffload "offload:kv_cache_usage_perc" → LooksLike n q.1 → q.2 = 99 / 100) := by
  have hdoc : documented (kvAndOffload "offload:kv_cache_usage_perc") kvCacheNames = some (99 / 100) := by decide +kernel
  obtain ⟨hone, hall⟩ := reads_documented_iff hdoc
  exact ⟨hone, hall (by decide)⟩

/-- An offload tier whose metric looks like the name of older versions is read for the engine's KV cache,
and a nearly full engine is taken for an idle one. -/
theorem offload_read_for_kv :
    documented (kvAndOffload "offload:gpu_cache_usage_perc") kvCacheNames = some (99 / 100) ∧
    first (kvAndOffload "offload:gpu_cache_usage_perc") kvCacheNames = some (1 / 10) ∧
    (snapshotFromMetrics (kvAndOffload "offload:gpu_cache_usage_perc")).kvCacheUsage = 1 / 10 := by
  refine ⟨?_, ?_, ?_⟩ <;> decide +kernel

end Dio.Gateway
