/-
Least-recently-used caches over ordered dictionaries: a touch puts a key last and drops the oldest
entries beyond the capacity. Such a cache always holds the latest bindings of the keys touched last.
-/
import DioServe.Data.Dict
import Mathlib.Data.List.Dedup

namespace Data.Lru

variable {κ α : Type} [DecidableEq κ]

/-- The latest binding of each key touched, newest first, of a history newest first. -/
def latest : List (κ × α) → Dict κ α
  | [] => []
  | p :: h => p :: Dict.erase (latest h) p.1

/-- Bind `k` as the newest entry and drop the oldest beyond `n`. -/
def touch (n : Nat) (d : Dict κ α) (k : κ) (v : α) : Dict κ α :=
  (Dict.setLast d k v).drop ((Dict.setLast d k v).length - n)

theorem keys_erase (d : Dict κ α) (k : κ) : Dict.keys (Dict.erase d k) = (Dict.keys d).filter fun j => j ≠ k := by
  unfold Dict.keys Dict.erase
  rw [List.filter_map]
  rfl

theorem nodup_keys_latest : ∀ h : List (κ × α), (Dict.keys (latest h)).Nodup
  | [] => List.nodup_nil
  | p :: h => by
    show (p.1 :: Dict.keys (Dict.erase (latest h) p.1)).Nodup
    rw [keys_erase, List.nodup_cons]
    refine ⟨fun hm => ?_, (nodup_keys_latest h).filter _⟩
    exact absurd rfl (of_decide_eq_true (List.mem_filter.1 hm).2)

/-- A key's latest binding is the first of the history. -/
theorem get?_latest (k : κ) : ∀ h : List (κ × α), Dict.get? (latest h) k = Dict.get? h k
  | [] => rfl
  | p :: h => by
    show Dict.get? ((p.1, p.2) :: Dict.erase (latest h) p.1) k = Dict.get? ((p.1, p.2) :: h) k
    rw [Dict.get?_cons, Dict.get?_cons]
    split
    · rfl
    · rename_i hne
      rw [Dict.get?_erase_ne hne, get?_latest k h]

/-- There is one latest binding for each distinct key. -/
theorem length_latest (h : List (κ × α)) : (latest h).length = (Dict.keys h).dedup.length := by
  have hperm : (Dict.keys (latest h)).Perm (Dict.keys h).dedup := by
    refine (List.perm_ext_iff_of_nodup (nodup_keys_latest h) (List.nodup_dedup _)).2 fun k => ?_
    rw [List.mem_dedup, ← Dict.get?_isSome_iff, ← Dict.get?_isSome_iff, get?_latest]
  rw [← hperm.length_eq, Dict.keys, List.length_map]

theorem erase_of_not_mem {d : Dict κ α} {k : κ} (h : k ∉ Dict.keys d) : Dict.erase d k = d := by
  refine List.filter_eq_self.2 fun p hp => ?_
  rw [decide_eq_true_eq]
  rintro rfl
  exact h (List.mem_map_of_mem hp)

/-- Erasing a key from one entry more than needed leaves enough. -/
theorem take_erase_take (k : κ) : ∀ (n : Nat) {d : Dict κ α}, (Dict.keys d).Nodup →
    (Dict.erase (d.take (n + 1)) k).take n = (Dict.erase d k).take n
  | 0, _, _ => by rw [List.take_zero, List.take_zero]
  | n + 1, [], _ => by simp
  | n + 1, p :: d, hn => by
    rw [Dict.keys, List.map_cons, List.nodup_cons] at hn
    by_cases h : p.1 = k
    · have hk : k ∉ Dict.keys d := h ▸ hn.1
      have hk' : k ∉ Dict.keys (d.take (n + 1)) := fun hm => hk ((List.take_sublist ..).map Prod.fst |>.subset hm)
      have hdrop : ∀ e : Dict κ α, Dict.erase (p :: e) k = Dict.erase e k := fun e => by simp [Dict.erase, h]
      rw [List.take_succ_cons, hdrop, hdrop, erase_of_not_mem hk, erase_of_not_mem hk', List.take_take, Nat.min_self]
    · have hkeep : ∀ e : Dict κ α, Dict.erase (p :: e) k = p :: Dict.erase e k := fun e => by simp [Dict.erase, h]
      rw [List.take_succ_cons, hkeep, hkeep, List.take_succ_cons, List.take_succ_cons, take_erase_take k n hn.2]

theorem erase_reverse (d : Dict κ α) (k : κ) : Dict.erase d.reverse k = (Dict.erase d k).reverse :=
  List.filter_reverse ..

/-- What the cache of a history is: the latest bindings of the `n` keys touched last, oldest first. -/
def cache (n : Nat) (h : List (κ × α)) : Dict κ α := ((latest h).take n).reverse

theorem cache_nil (n : Nat) : cache n ([] : List (κ × α)) = [] := by
  rw [cache, latest, List.take_nil, List.reverse_nil]

/-- A touch makes the cache of the history one longer. -/
theorem touch_cache {n : Nat} (hn : 0 < n) (h : List (κ × α)) (k : κ) (v : α) :
    touch n (cache n h) k v = cache n ((k, v) :: h) := by
  obtain ⟨m, rfl⟩ : ∃ m, n = m + 1 := ⟨n - 1, by omega⟩
  have hlast : Dict.setLast (cache (m + 1) h) k v = ((k, v) :: Dict.erase ((latest h).take (m + 1)) k).reverse := by
    unfold Dict.setLast cache
    rw [erase_reverse, List.reverse_cons]
  unfold touch
  rw [hlast, List.length_reverse, ← List.reverse_take, List.take_succ_cons, take_erase_take k m (nodup_keys_latest h)]
  rfl

theorem length_cache (n : Nat) (h : List (κ × α)) : (cache n h).length = min n (Dict.keys h).dedup.length := by
  rw [cache, List.length_reverse, List.length_take, length_latest]

theorem nodup_keys_cache (n : Nat) (h : List (κ × α)) : (Dict.keys (cache n h)).Nodup := by
  unfold cache Dict.keys
  rw [List.map_reverse]
  exact List.nodup_reverse.2 ((nodup_keys_latest h).sublist ((List.take_sublist ..).map Prod.fst))

/-- The cache binds a key to its latest value. -/
theorem get?_of_cache {n : Nat} {h : List (κ × α)} {k : κ} {v : α} (hv : Dict.get? (cache n h) k = some v) :
    Dict.get? h k = some v := by
  have hmem : (k, v) ∈ (latest h).take n := List.mem_reverse.1 (Dict.mem_of_get? hv)
  rw [← get?_latest]
  exact Dict.get?_of_mem_of_nodup (nodup_keys_latest h) (List.mem_of_mem_take hmem)

/-- A touch makes the dictionary one longer when the key is new. -/
theorem length_setLast {d : Dict κ α} (hn : (Dict.keys d).Nodup) (k : κ) (v : α) :
    (Dict.setLast d k v).length = d.length + if Dict.contains d k then 0 else 1 := by
  have hlen : (Dict.erase d k).length + (if Dict.contains d k then 1 else 0) = d.length := by
    have hkeys : (Dict.keys (Dict.erase d k)).length = ((Dict.keys d).erase k).length := by
      rw [keys_erase, hn.erase_eq_filter]
      congr 2
      funext j
      by_cases hj : j = k <;> simp [hj]
    have hc : Dict.contains d k = decide (k ∈ Dict.keys d) := by
      rw [Bool.eq_iff_iff, decide_eq_true_eq]; exact Dict.get?_isSome_iff
    rw [Dict.keys, List.length_map] at hkeys
    rw [hkeys, hc, List.length_erase, Dict.keys, List.length_map]
    by_cases hm : k ∈ d.map Prod.fst
    · have hpos := List.length_pos_of_mem hm
      rw [List.length_map] at hpos
      simp only [hm, decide_true, if_true]
      omega
    · simp [hm]
  unfold Dict.setLast
  rw [List.length_append, List.length_singleton]
  split at hlen <;> rename_i hc <;> simp [hc] <;> omega

/-! ## A cache started later -/

/-- `e` is `d` without some of its oldest entries: their keys are not among the renewed ones, and all of `e`'s are. -/
def Newest (renewed : List κ) (d e : Dict κ α) : Prop :=
  ∃ old, d = old ++ e ∧ (∀ k ∈ renewed, k ∉ Dict.keys old) ∧ ∀ k ∈ Dict.keys e, k ∈ renewed

omit [DecidableEq κ] in
theorem Newest.empty (d : Dict κ α) : Newest [] d [] :=
  ⟨d, (List.append_nil d).symm, List.forall_mem_nil _, List.forall_mem_nil _⟩

theorem get?_append_of_not_mem {k : κ} : ∀ {d : Dict κ α} (e : Dict κ α), k ∉ Dict.keys d →
    Dict.get? (d ++ e) k = Dict.get? e k
  | [], _, _ => rfl
  | (k', v) :: d, e, h => by
    rw [Dict.keys, List.map_cons, List.mem_cons, not_or] at h
    rw [List.cons_append, Dict.get?_cons, if_neg (Ne.symm h.1), get?_append_of_not_mem e h.2]

/-- Both bind a renewed key alike. -/
theorem Newest.get?_renewed {renewed : List κ} {d e : Dict κ α} (h : Newest renewed d e) {k : κ} (hk : k ∈ renewed) :
    Dict.get? e k = Dict.get? d k := by
  obtain ⟨old, rfl, hold, -⟩ := h
  exact (get?_append_of_not_mem e (hold k hk)).symm

/-- The later one binds no other key. -/
theorem Newest.get?_other {renewed : List κ} {d e : Dict κ α} (h : Newest renewed d e) {k : κ} (hk : k ∉ renewed) :
    Dict.get? e k = none := by
  obtain ⟨old, -, -, hnew⟩ := h
  exact Dict.get?_eq_none_iff.2 fun hm => hk (hnew k hm)

/-- The same touch of both renews its key. -/
theorem Newest.touch {renewed : List κ} {d e : Dict κ α} (h : Newest renewed d e) (n : Nat) (k : κ) (v : α) :
    Newest (k :: renewed) (touch n d k v) (touch n e k v) := by
  obtain ⟨old, rfl, hold, hnew⟩ := h
  have hlast : Dict.setLast (old ++ e) k v = Dict.erase old k ++ Dict.setLast e k v := by
    unfold Dict.setLast Dict.erase
    rw [List.filter_append, List.append_assoc]
  refine ⟨(Dict.erase old k).drop ((Dict.setLast (old ++ e) k v).length - n), ?_, ?_, ?_⟩
  · -- what is dropped beyond the older entries is dropped from the later cache as well
    have hcount : (Dict.setLast (old ++ e) k v).length - n - (Dict.erase old k).length =
        (Dict.setLast e k v).length - n := by
      rw [hlast, List.length_append]
      omega
    unfold Lru.touch
    rw [← hcount, ← List.drop_append, ← hlast]
  · intro j hj hm
    have hkeys : j ∈ Dict.keys (Dict.erase old k) := ((List.drop_sublist ..).map Prod.fst).subset hm
    rw [keys_erase, List.mem_filter, decide_eq_true_eq] at hkeys
    rcases List.mem_cons.1 hj with rfl | hj
    · exact hkeys.2 rfl
    · exact hold j hj hkeys.1
  · intro j hj
    have hkeys : j ∈ Dict.keys (Dict.setLast e k v) := ((List.drop_sublist ..).map Prod.fst).subset hj
    unfold Dict.setLast Dict.keys at hkeys
    rw [List.map_append, List.mem_append] at hkeys
    rcases hkeys with hm | hm
    · have hje : j ∈ Dict.keys (Dict.erase e k) := hm
      rw [keys_erase] at hje
      exact List.mem_cons_of_mem _ (hnew j (List.mem_of_mem_filter hje))
    · exact List.mem_cons.2 (.inl (List.mem_singleton.1 hm))

end Data.Lru
