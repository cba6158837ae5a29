/-
Insertion-ordered dictionaries as association lists: a lookup finds the first binding of a key,
an update keeps the key's place, a new key goes to the end. Two dictionaries are equivalent when
every lookup agrees, whatever their order.
-/
import Mathlib.Data.List.Basic
import Mathlib.Tactic.Common

namespace Data

/-- A dictionary, in insertion order. -/
abbrev Dict (κ α : Type) := List (κ × α)

namespace Dict

variable {κ α β : Type} [DecidableEq κ]

def get? : Dict κ α → κ → Option α
  | [], _ => none
  | (k', v) :: d, k => if k' = k then some v else get? d k

/-- `d[k] = v`: in place when `k` is bound, at the end otherwise. -/
def set : Dict κ α → κ → α → Dict κ α
  | [], k, v => [(k, v)]
  | (k', v') :: d, k, v => if k' = k then (k, v) :: d else (k', v') :: set d k v

/-- `d.pop(k, None)`. -/
def erase (d : Dict κ α) (k : κ) : Dict κ α := d.filter fun p => p.1 ≠ k

/-- `d.update(e)`. -/
def update (d e : Dict κ α) : Dict κ α := e.foldl (fun d p => set d p.1 p.2) d

/-- `d[k] = v` followed by `d.move_to_end(k)`. -/
def setLast (d : Dict κ α) (k : κ) (v : α) : Dict κ α := erase d k ++ [(k, v)]

/-- `d[k] = f(d[k])` when `k` is bound. -/
def modify (d : Dict κ α) (k : κ) (f : α → α) : Dict κ α := d.map fun p => (p.1, if p.1 = k then f p.2 else p.2)

def keys (d : Dict κ α) : List κ := d.map Prod.fst

def contains (d : Dict κ α) (k : κ) : Bool := (get? d k).isSome

@[simp] theorem get?_nil (k : κ) : get? ([] : Dict κ α) k = none := rfl

theorem get?_cons (k' : κ) (v : α) (d : Dict κ α) (k : κ) :
    get? ((k', v) :: d) k = if k' = k then some v else get? d k := rfl

@[simp] theorem get?_set_self (k : κ) (v : α) : ∀ d : Dict κ α, get? (set d k v) k = some v
  | [] => by simp [set, get?]
  | (k', v') :: d => by
    unfold set
    split
    · simp [get?]
    · rename_i h; simp [get?, h, get?_set_self k v d]

theorem get?_set_ne {k k' : κ} (h : k ≠ k') (v : α) : ∀ d : Dict κ α, get? (set d k v) k' = get? d k'
  | [] => by simp [set, get?, h]
  | (k'', v'') :: d => by
    unfold set
    split
    · rename_i hk; subst hk; simp [get?, h]
    · simp only [get?, get?_set_ne h v d]

theorem get?_set (k k' : κ) (v : α) (d : Dict κ α) :
    get? (set d k v) k' = if k = k' then some v else get? d k' := by
  split
  · rename_i h; subst h; exact get?_set_self k v d
  · rename_i h; exact get?_set_ne h v d

theorem mem_of_get? {k : κ} {v : α} : ∀ {d : Dict κ α}, get? d k = some v → (k, v) ∈ d
  | (k', v') :: d, h => by
    unfold get? at h
    split at h
    · rename_i hk; cases h; subst hk; exact List.mem_cons_self ..
    · exact List.mem_cons_of_mem _ (mem_of_get? h)

theorem get?_isSome_iff {k : κ} : ∀ {d : Dict κ α}, (get? d k).isSome ↔ k ∈ keys d
  | [] => by simp [keys]
  | (k', v') :: d => by
    have ih : (get? d k).isSome ↔ k ∈ keys d := get?_isSome_iff
    unfold get?
    split
    · rename_i hk; subst hk; simp [keys]
    · rename_i hk
      rw [ih]
      simp only [keys, List.map_cons, List.mem_cons]
      constructor
      · exact .inr
      · rintro (rfl | h)
        · exact absurd rfl hk
        · exact h

theorem get?_eq_none_iff {k : κ} {d : Dict κ α} : get? d k = none ↔ k ∉ keys d := by
  rw [← get?_isSome_iff]; cases get? d k <;> simp

theorem exists_get?_of_mem_keys {k : κ} {d : Dict κ α} (h : k ∈ keys d) : ∃ v, get? d k = some v :=
  Option.isSome_iff_exists.1 (get?_isSome_iff.2 h)

theorem mem_keys_of_get? {k : κ} {v : α} {d : Dict κ α} (h : get? d k = some v) : k ∈ keys d :=
  get?_isSome_iff.1 (by rw [h]; rfl)

theorem mem_keys_set {k k' : κ} {v : α} {d : Dict κ α} : k' ∈ keys (set d k v) ↔ k' = k ∨ k' ∈ keys d := by
  rw [← get?_isSome_iff, ← get?_isSome_iff, get?_set]
  split
  · rename_i h; simp [h]
  · rename_i h; simp [Ne.symm h]

/-- Updating a bound key keeps the keys and their order. -/
theorem keys_set_of_mem {k : κ} (v : α) : ∀ {d : Dict κ α}, k ∈ keys d → keys (set d k v) = keys d
  | (k', v') :: d, h => by
    unfold set
    split
    · rename_i hk; subst hk; rfl
    · rename_i hk
      simp only [keys, List.map_cons, List.mem_cons] at h ⊢
      rw [show (set d k v).map Prod.fst = d.map Prod.fst from
        keys_set_of_mem v (h.resolve_left fun e => hk e.symm)]

/-- A new key goes last. -/
theorem keys_set_of_not_mem {k : κ} (v : α) : ∀ {d : Dict κ α}, k ∉ keys d → keys (set d k v) = keys d ++ [k]
  | [], _ => rfl
  | (k', v') :: d, h => by
    simp only [keys, List.map_cons, List.mem_cons, not_or] at h
    rw [set, if_neg (Ne.symm h.1)]
    simp only [keys, List.map_cons, List.cons_append]
    rw [show (set d k v).map Prod.fst = d.map Prod.fst ++ [k] from keys_set_of_not_mem v h.2]

/-- A new binding goes last. -/
theorem set_of_not_mem {k : κ} (v : α) : ∀ {d : Dict κ α}, k ∉ keys d → set d k v = d ++ [(k, v)]
  | [], _ => rfl
  | (k', v') :: d, h => by
    simp only [keys, List.map_cons, List.mem_cons, not_or] at h
    rw [set, if_neg (Ne.symm h.1), set_of_not_mem v h.2, List.cons_append]

/-- Lookups of a dictionary built from another by changing the values. -/
theorem get?_map (f : κ → α → β) (k : κ) :
    ∀ d : Dict κ α, get? (d.map fun p => (p.1, f p.1 p.2)) k = (get? d k).map (f k)
  | [] => rfl
  | (k', v) :: d => by
    simp only [List.map_cons, get?, get?_map f k d]
    split
    · rename_i h; subst h; rfl
    · rfl

theorem get?_modify (k k' : κ) (f : α → α) (d : Dict κ α) :
    get? (modify d k f) k' = if k' = k then (get? d k').map f else get? d k' := by
  unfold modify
  rw [get?_map (fun j v => if j = k then f v else v)]
  split
  · rfl
  · exact Option.map_id' ..

@[simp] theorem keys_modify (k : κ) (f : α → α) (d : Dict κ α) : keys (modify d k f) = keys d := by
  simp [keys, modify]

/-! ### Changing every value -/

/-- `{k: f(v) for k, v in d.items()}`. -/
def mapVals (f : α → β) (d : Dict κ α) : Dict κ β := d.map fun p => (p.1, f p.2)

@[simp] theorem get?_mapVals (f : α → β) (k : κ) (d : Dict κ α) : get? (mapVals f d) k = (get? d k).map f :=
  get?_map (fun _ => f) k d

@[simp] theorem contains_mapVals (f : α → β) (k : κ) (d : Dict κ α) : contains (mapVals f d) k = contains d k := by
  simp [contains]

theorem set_mapVals (f : α → β) (k : κ) (v : α) : ∀ d : Dict κ α, set (mapVals f d) k (f v) = mapVals f (set d k v)
  | [] => rfl
  | (k', v') :: d => by
    have ih : set (mapVals f d) k (f v) = mapVals f (set d k v) := set_mapVals f k v d
    by_cases h : k' = k
    · simp [mapVals, set, h]
    · simpa [mapVals, set, h] using ih

theorem erase_mapVals (f : α → β) (k : κ) (d : Dict κ α) : erase (mapVals f d) k = mapVals f (erase d k) := by
  unfold erase mapVals
  rw [List.filter_map]
  rfl

/-- Changing every value and then one is changing that one first. -/
theorem modify_mapVals {f : α → β} {g : α → α} {g' : β → β} (h : ∀ v, g' (f v) = f (g v)) (k : κ) (d : Dict κ α) :
    modify (mapVals f d) k g' = mapVals f (modify d k g) := by
  unfold modify mapVals
  rw [List.map_map, List.map_map]
  refine List.map_congr_left fun p _ => ?_
  by_cases hk : p.1 = k
  · simp [hk, h]
  · simp [hk]

theorem get?_of_mem_of_nodup {k : κ} {v : α} :
    ∀ {d : Dict κ α}, (keys d).Nodup → (k, v) ∈ d → get? d k = some v
  | (k', v') :: d, hn, h => by
    rw [keys, List.map_cons, List.nodup_cons] at hn
    rcases List.mem_cons.1 h with h | h
    · cases h; simp [get?]
    · have hne : k' ≠ k := by
        rintro rfl; exact hn.1 (List.mem_map.2 ⟨_, h, rfl⟩)
      rw [get?, if_neg hne]
      exact get?_of_mem_of_nodup hn.2 h

/-- Where the keys are distinct, a lookup does not depend on the order. -/
theorem get?_eq_of_perm {d e : Dict κ α} (hd : (keys d).Nodup) (h : d.Perm e) (k : κ) : get? d k = get? e k := by
  have hkeys : (keys d).Perm (keys e) := h.map Prod.fst
  cases hk : get? d k with
  | some v => exact (get?_of_mem_of_nodup (hkeys.nodup_iff.1 hd) (h.mem_iff.1 (mem_of_get? hk))).symm
  | none =>
    rw [get?_eq_none_iff, hkeys.mem_iff] at hk
    exact (get?_eq_none_iff.2 hk).symm

theorem nodup_keys_set {k : κ} {v : α} : ∀ {d : Dict κ α}, (keys d).Nodup → (keys (set d k v)).Nodup
  | [], _ => by simp [set, keys]
  | (k', v') :: d, h => by
    rw [keys, List.map_cons, List.nodup_cons] at h
    unfold set
    split
    · rename_i hk; subst hk; rw [keys, List.map_cons, List.nodup_cons]; exact h
    · rename_i hk
      rw [keys, List.map_cons, List.nodup_cons]
      refine ⟨?_, nodup_keys_set h.2⟩
      intro hm
      rcases mem_keys_set.1 hm with he | he
      · exact hk he
      · exact h.1 he

theorem mem_set {k : κ} {v : α} {p : κ × α} : ∀ {d : Dict κ α}, p ∈ set d k v → p = (k, v) ∨ p ∈ d
  | [], h => .inl (List.mem_singleton.1 h)
  | (k', v') :: d, h => by
    unfold set at h
    split at h
    · rcases List.mem_cons.1 h with h | h
      · exact .inl h
      · exact .inr (List.mem_cons_of_mem _ h)
    · rcases List.mem_cons.1 h with h | h
      · exact .inr (h ▸ List.mem_cons_self ..)
      · exact (mem_set h).imp id (List.mem_cons_of_mem _)

theorem get?_erase_ne {k k' : κ} (h : k ≠ k') : ∀ d : Dict κ α, get? (erase d k) k' = get? d k'
  | [] => rfl
  | (k'', v) :: d => by
    have ih := get?_erase_ne h d
    unfold erase at ih ⊢
    rw [List.filter_cons]
    by_cases hk : k'' = k
    · subst hk
      rw [if_neg (by simp), ih, get?_cons, if_neg h]
    · rw [if_pos (by simpa using hk), get?_cons, get?_cons, ih]

@[simp] theorem get?_erase_self (k : κ) (d : Dict κ α) : get? (erase d k) k = none := by
  rw [get?_eq_none_iff]
  intro h
  obtain ⟨p, hp, hk⟩ := List.mem_map.1 h
  exact of_decide_eq_true (List.mem_filter.1 hp).2 hk

/-- What an update binds comes from the update, or was bound before. -/
theorem get?_update {k : κ} : ∀ {e : Dict κ α}, (keys e).Nodup → ∀ d : Dict κ α,
    get? (update d e) k = (get? e k).or (get? d k)
  | [], _, _ => rfl
  | (k', v) :: e, hn, d => by
    rw [keys, List.map_cons, List.nodup_cons] at hn
    show get? (update (set d k' v) e) k = _
    rw [get?_update hn.2, get?_set, get?_cons]
    split
    · rename_i hk
      subst hk
      rw [get?_eq_none_iff.2 hn.1]
      rfl
    · rfl

/-- What the last pair of a key binds. -/
def lastOf : List (κ × α) → κ → Option α
  | [], _ => none
  | (k', v) :: l, k => (lastOf l k).or (if k' = k then some v else none)

/-- After an update with any pairs the last pair of a key counts. -/
theorem get?_update_lastOf (k : κ) : ∀ (l : List (κ × α)) (d : Dict κ α),
    get? (update d l) k = (lastOf l k).or (get? d k)
  | [], _ => rfl
  | (k', v) :: l, d => by
    show get? (update (set d k' v) l) k = ((lastOf l k).or (if k' = k then some v else none)).or (get? d k)
    rw [get?_update_lastOf k l, get?_set, Option.or_assoc]
    congr 1
    split
    · rfl
    · rfl

/-- Equal up to order: every lookup agrees. -/
def Equiv (d e : Dict κ α) : Prop := ∀ k, get? d k = get? e k

theorem Equiv.refl (d : Dict κ α) : Equiv d d := fun _ => rfl

theorem Equiv.set_comm {k k' : κ} (h : k ≠ k') (v v' : α) (d : Dict κ α) :
    Equiv (set (set d k v) k' v') (set (set d k' v') k v) := by
  intro j
  simp only [get?_set]
  split
  · rename_i hj; subst hj; simp [h]
  · rfl

end Dict

end Data
