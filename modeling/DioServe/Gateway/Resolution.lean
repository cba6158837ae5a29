/-
What a model name resolves to (`_resolve_model_backends`). A name that is not a key is taken for the
first key that matches it loosely: so the answer depends on the order of declaration wherever keys
with different backends match, and a key with a last segment of one or two characters, or of none,
catches requests for other models.
-/
import DioServe.Gateway.Models

namespace Dio.Gateway

open Data Py

variable {U : Unicode}

/-! ## Failing closed -/

section FailsClosed

variable {table : Dict String (List String)} {name : String}

/-- The last path segment of a name, in lower case. -/
def tailOf (U : Unicode) (key : String) : List Char := lastSegment (U.lower key.toList)

/-- The request is the key, or one of request and last segment starts with the other and neither is short. -/
def SafeMatch (U : Unicode) (lower : List Char) (key : String) : Prop :=
  lower = U.lower key.toList ∨
    ((lower <+: tailOf U key ∨ tailOf U key <+: lower) ∧ 3 ≤ min lower.length (tailOf U key).length)

/-- A request that gets backends gets those of a key that it matches safely. -/
def FailsClosed (U : Unicode) (table : Dict String (List String)) (name : String) : Prop :=
  ∀ ids, resolveName U table name = some ids → ids ≠ [] →
    ∃ key, Dict.get? table key = some ids ∧ SafeMatch U (foldName U name) key

/-- No key is the request up to case, and the first that matches it by a prefix has a short last segment. -/
structure ShortMatch (U : Unicode) (table : Dict String (List String)) (name key : String) : Prop where
  long : 3 ≤ (foldName U name).length
  noSame : ∀ k ∈ Dict.keys table, sameName U (foldName U name) k = false
  first : (Dict.keys table).find? (prefixName U (foldName U name)) = some key
  short : (tailOf U key).length < 3

theorem prefixName_iff {lower : List Char} {key : String} :
    prefixName U lower key = true ↔ lower <+: tailOf U key ∨ tailOf U key <+: lower := by
  unfold prefixName tailOf
  rw [Bool.or_eq_true, List.isPrefixOf_iff_prefix, List.isPrefixOf_iff_prefix]

theorem sameName_safe {lower : List Char} {key : String} (hlong : 3 ≤ lower.length) (h : sameName U lower key = true) :
    SafeMatch U lower key := by
  unfold sameName at h
  rw [Bool.or_eq_true, decide_eq_true_eq, decide_eq_true_eq] at h
  rcases h with h | h
  · exact .inl h
  · have htail : tailOf U key = lower := h
    refine .inr ⟨.inl (htail ▸ List.prefix_refl _), ?_⟩
    rw [htail, Nat.min_self]
    exact hlong

/-- An unknown name resolves by its loose match. -/
theorem resolveName_unknown (hk : name ∉ Dict.keys table) {ids : List String} (hids : ids ≠ [])
    (h : resolveName U table name = some ids) :
    ∃ key, looseMatch U (Dict.keys table) name = some key ∧ Dict.get? table key = some ids := by
  unfold resolveName at h
  split at h
  · cases h
  · rw [Dict.get?_eq_none_iff.2 hk] at h
    cases hm : looseMatch U (Dict.keys table) name with
    | none =>
      rw [hm] at h
      cases h
      exact absurd rfl hids
    | some key =>
      refine ⟨key, rfl, ?_⟩
      rw [hm, Option.bind_some] at h
      cases hg : Dict.get? table key with
      | none =>
        rw [hg] at h
        cases h
        exact absurd rfl hids
      | some ids' =>
        rw [hg] at h
        cases h
        rfl

theorem resolveName_of_loose (hk : name ∉ Dict.keys table) (hg : generic name = false) {key : String} {ids : List String}
    (hm : looseMatch U (Dict.keys table) name = some key) (hids : Dict.get? table key = some ids) :
    resolveName U table name = some ids := by
  have hne : table ≠ [] := by
    rintro rfl
    cases hids
  unfold resolveName
  rw [if_neg (by simp [hne, hg]), Dict.get?_eq_none_iff.2 hk, hm, Option.bind_some, hids]
  rfl

theorem ShortMatch.looseMatch {key : String} (h : ShortMatch U table name key) :
    looseMatch U (Dict.keys table) name = some key := by
  have hnone : (Dict.keys table).find? (sameName U (foldName U name)) = none := by
    rw [List.find?_eq_none]
    intro k hk
    rw [h.noSame k hk]
    exact Bool.false_ne_true
  unfold Gateway.looseMatch
  dsimp only
  rw [if_neg (Nat.not_lt.2 h.long), hnone, h.first]
  rfl

/-- A loose match is safe, or by a short last segment. -/
theorem looseMatch_cases {key : String} (h : Gateway.looseMatch U (Dict.keys table) name = some key) :
    SafeMatch U (foldName U name) key ∨ ShortMatch U table name key := by
  unfold Gateway.looseMatch at h
  dsimp only at h
  split at h
  · cases h
  · rename_i hlong
    have hlong : 3 ≤ (foldName U name).length := Nat.not_lt.1 hlong
    cases hs : (Dict.keys table).find? (sameName U (foldName U name)) with
    | some k =>
      rw [hs] at h
      cases h
      exact .inl (sameName_safe hlong (List.find?_some hs))
    | none =>
      rw [hs] at h
      have hfirst : (Dict.keys table).find? (prefixName U (foldName U name)) = some key := h
      have hmatch := prefixName_iff.1 (List.find?_some hfirst)
      rcases Nat.lt_or_ge (tailOf U key).length 3 with hshort | hge
      · refine .inr ⟨hlong, ?_, hfirst, hshort⟩
        intro k hk
        exact Bool.eq_false_of_not_eq_true (List.find?_eq_none.1 hs k hk)
      · exact .inl (.inr ⟨hmatch, Nat.le_min.2 ⟨hlong, hge⟩⟩)

/-- Resolution fails closed for a name exactly when no key with backends catches it by a short last segment, unless
another key with the same backends matches it safely. -/
theorem failsClosed_iff (hk : name ∉ Dict.keys table) (hg : generic name = false) : FailsClosed U table name ↔
    ∀ key ids, ShortMatch U table name key → Dict.get? table key = some ids → ids ≠ [] →
      ∃ key', Dict.get? table key' = some ids ∧ SafeMatch U (foldName U name) key' := by
  constructor
  · intro h key ids hshort hids hne
    exact h ids (resolveName_of_loose hk hg hshort.looseMatch hids) hne
  · intro h ids hres hne
    obtain ⟨key, hm, hids⟩ := resolveName_unknown hk hne hres
    rcases looseMatch_cases hm with hsafe | hshort
    · exact ⟨key, hids, hsafe⟩
    · exact h key ids hshort hids hne

theorem failsClosed_qwen : FailsClosed Unicode.ascii [("qwen2.5-7b", ["gpu1"])] "qwen" ↔
    ∀ key ids, ShortMatch Unicode.ascii [("qwen2.5-7b", ["gpu1"])] "qwen" key →
      Dict.get? [("qwen2.5-7b", ["gpu1"])] key = some ids → ids ≠ [] →
      ∃ key', Dict.get? [("qwen2.5-7b", ["gpu1"])] key' = some ids ∧ SafeMatch Unicode.ascii (foldName Unicode.ascii "qwen") key' :=
  failsClosed_iff (by decide) (by decide)

/-- A key that ends in a slash catches every request. -/
theorem trailing_slash_catches : "totally-unknown" ∉ Dict.keys [("meta-llama/", ["gpu0"])] ∧
    generic "totally-unknown" = false ∧ ¬ FailsClosed Unicode.ascii [("meta-llama/", ["gpu0"])] "totally-unknown" := by
  refine ⟨by decide, by decide, fun h => ?_⟩
  obtain ⟨key, hkey, hsafe⟩ := h ["gpu0"] (by decide +kernel) (by decide)
  have hmem : key ∈ Dict.keys [("meta-llama/", ["gpu0"])] := Dict.mem_keys_of_get? hkey
  obtain rfl := List.mem_singleton.1 hmem
  revert hsafe
  unfold SafeMatch
  decide +kernel

end FailsClosed

/-! ## The order of declaration -/

section Order

variable {pool pool' : BackendPool} {map map' : ModelMap} {name : String}

/-- The same backends, declared in another order. -/
structure Redeclared (pool pool' : BackendPool) (map map' : ModelMap) : Prop where
  backends : pool'.backends.Perm pool.backends
  entries : map'.entries.Perm map.entries

/-- Both are every backend, or both are lists with the same ids. -/
def SameSet (r r' : Option (List String)) : Prop :=
  (r = none ↔ r' = none) ∧ ∀ i, (∃ ids, r = some ids ∧ i ∈ ids) ↔ ∃ ids, r' = some ids ∧ i ∈ ids

/-- The name resolves to the same backends whatever the order of declaration. -/
def OrderFree (U : Unicode) (pool : BackendPool) (map : ModelMap) (name : String) : Prop :=
  ∀ pool' map', Redeclared pool pool' map map' →
    SameSet (resolveName U (modelAliases pool' map') name) (resolveName U (modelAliases pool map) name)

/-- The alias table has the backend under the name. -/
def Bound (pool : BackendPool) (map : ModelMap) (key i : String) : Prop :=
  ∃ ids, Dict.get? (modelAliases pool map) key = some ids ∧ i ∈ ids

/-- In some order of declaration `key` is the first name that satisfies `q`: the names of `model_map` come before the
backends' own. -/
def Leader (pool : BackendPool) (map : ModelMap) (q : String → Bool) (key : String) : Prop :=
  q key = true ∧ (key ∈ Dict.keys map.entries ∨ ((∀ k ∈ Dict.keys map.entries, q k = false) ∧ OwnModel pool key))

/-- The search that decides: for a name the request is, and for a name it begins or that begins it only where there is
none. -/
def stage (U : Unicode) (pool : BackendPool) (map : ModelMap) (lower : List Char) : String → Bool :=
  if (knownNames pool map).any (sameName U lower) then sameName U lower else prefixName U lower

theorem looseMatch_eq_stage (known : List String) (hlong : 3 ≤ (foldName U name).length) :
    looseMatch U known name =
      known.find? (if known.any (sameName U (foldName U name)) then sameName U (foldName U name)
        else prefixName U (foldName U name)) := by
  unfold looseMatch
  dsimp only
  rw [if_neg (Nat.not_lt.2 hlong)]
  split
  · rename_i hany
    have hsome : (known.find? (sameName U (foldName U name))).isSome := by
      rw [List.find?_isSome]
      exact List.any_eq_true.1 hany
    obtain ⟨k, hk⟩ := Option.isSome_iff_exists.1 hsome
    rw [hk]
    rfl
  · rename_i hany
    have hnone : known.find? (sameName U (foldName U name)) = none := by
      rw [List.find?_eq_none]
      intro k hk hsame
      exact hany (List.any_eq_true.2 ⟨k, hk, hsame⟩)
    rw [hnone]
    rfl

/-! ### What the order does not change -/

theorem get?_perm {α : Type} {d d' : Dict String α} (h : d'.Perm d) (hn : (Dict.keys d).Nodup) (k : String) :
    Dict.get? d' k = Dict.get? d k := by
  have hn' : (Dict.keys d').Nodup := (h.map Prod.fst).nodup_iff.2 hn
  cases hg : Dict.get? d k with
  | some v => exact Dict.get?_of_mem_of_nodup hn' (h.mem_iff.2 (Dict.mem_of_get? hg))
  | none =>
    rw [Dict.get?_eq_none_iff] at hg ⊢
    exact fun hk => hg ((h.map Prod.fst).mem_iff.1 hk)

theorem Redeclared.ownModel_iff (h : Redeclared pool pool' map map') (key : String) : OwnModel pool' key ↔ OwnModel pool key := by
  unfold OwnModel
  constructor
  · rintro ⟨b, hb, hm⟩
    exact ⟨b, h.backends.mem_iff.1 hb, hm⟩
  · rintro ⟨b, hb, hm⟩
    exact ⟨b, h.backends.mem_iff.2 hb, hm⟩

theorem Redeclared.mem_keys_iff (h : Redeclared pool pool' map map') (key : String) :
    key ∈ Dict.keys map'.entries ↔ key ∈ Dict.keys map.entries := (h.entries.map Prod.fst).mem_iff

theorem Redeclared.known_iff (h : Redeclared pool pool' map map') (key : String) :
    key ∈ knownNames pool' map' ↔ key ∈ knownNames pool map := by
  rw [mem_knownNames, mem_knownNames, h.mem_keys_iff, h.ownModel_iff]

theorem Redeclared.leader_iff (h : Redeclared pool pool' map map') (q : String → Bool) (key : String) :
    Leader pool' map' q key ↔ Leader pool map q key := by
  unfold Leader
  simp only [h.mem_keys_iff, h.ownModel_iff]

theorem Redeclared.keptIds_eq (h : Redeclared pool pool' map map') (ids : List String) : keptIds pool' ids = keptIds pool ids := by
  have hmem : ∀ i, i ∈ pool'.ids ↔ i ∈ pool.ids := fun i => (h.backends.map Backend.id).mem_iff
  unfold keptIds
  simp only [hmem]

/-- A name has the same backends in whatever order they are declared. -/
theorem Redeclared.bound_iff (h : Redeclared pool pool' map map') (key i : String) :
    Bound pool' map' key i ↔ Bound pool map key i := by
  have hkept : (map'.entries.map fun p => (p.1, keptIds pool' p.2)) = map'.entries.map fun p => (p.1, keptIds pool p.2) :=
    List.map_congr_left fun p _ => by rw [h.keptIds_eq]
  have hget : Dict.get? (map'.entries.map fun p => (p.1, keptIds pool' p.2)) key =
      Dict.get? (map.entries.map fun p => (p.1, keptIds pool p.2)) key := by
    rw [hkept]
    have hkeys : Dict.keys (map.entries.map fun p => (p.1, keptIds pool p.2)) = Dict.keys map.entries := by
      simp [Dict.keys, Function.comp_def]
    apply get?_perm (h.entries.map _)
    rw [hkeys]
    exact map.nodup
  unfold Bound modelAliases
  rw [mem_foldl_addOwnModel, mem_foldl_addOwnModel, hget]
  apply or_congr_right
  constructor
  · rintro ⟨b, hb, hm⟩
    exact ⟨b, h.backends.mem_iff.1 hb, hm⟩
  · rintro ⟨b, hb, hm⟩
    exact ⟨b, h.backends.mem_iff.2 hb, hm⟩

theorem Redeclared.any_iff (h : Redeclared pool pool' map map') (q : String → Bool) :
    (knownNames pool' map').any q = (knownNames pool map).any q := by
  rw [Bool.eq_iff_iff, List.any_eq_true, List.any_eq_true]
  simp only [h.known_iff]

theorem Redeclared.stage_eq (h : Redeclared pool pool' map map') (lower : List Char) :
    stage U pool' map' lower = stage U pool map lower := by
  unfold stage
  rw [h.any_iff]

/-! ### What it decides -/

/-- Some order of a list's elements begins with any given one. -/
theorem exists_perm_cons {α : Type} {x : α} {xs : List α} (h : x ∈ xs) : ∃ ys, (x :: ys).Perm xs := by
  obtain ⟨l, r, rfl⟩ := List.append_of_mem h
  exact ⟨l ++ r, List.perm_middle.symm⟩

theorem leader_of_find? {q : String → Bool} {key : String} (h : (knownNames pool map).find? q = some key) :
    Leader pool map q key := by
  have hq : q key = true := List.find?_some h
  unfold knownNames at h
  rw [List.find?_append] at h
  cases hm : (Dict.keys map.entries).find? q with
  | some k =>
    rw [hm] at h
    cases h
    exact ⟨hq, .inl (List.mem_of_find?_eq_some hm)⟩
  | none =>
    rw [hm] at h
    have hown : key ∈ pool.backends.filterMap Backend.ownModel := List.mem_of_find?_eq_some h
    obtain ⟨b, hb, hbm⟩ := List.mem_filterMap.1 hown
    refine ⟨hq, .inr ⟨?_, b, hb, hbm⟩⟩
    intro k hk
    exact Bool.eq_false_of_not_eq_true (List.find?_eq_none.1 hm k hk)

/-- A leader comes first in some order. -/
theorem Leader.exists_order {q : String → Bool} {key : String} (h : Leader pool map q key) :
    ∃ pool' map', Redeclared pool pool' map map' ∧ (knownNames pool' map').find? q = some key := by
  obtain ⟨hq, hmap | ⟨hnone, b, hb, hbm⟩⟩ := h
  · obtain ⟨p, hp, rfl⟩ := List.mem_map.1 hmap
    obtain ⟨rest, hrest⟩ := exists_perm_cons hp
    have hn : (Dict.keys (p :: rest)).Nodup := (hrest.map Prod.fst).nodup_iff.2 map.nodup
    refine ⟨pool, ⟨p :: rest, hn⟩, ⟨.refl _, hrest⟩, ?_⟩
    exact List.find?_cons_of_pos hq
  · obtain ⟨rest, hrest⟩ := exists_perm_cons hb
    have hn : ((b :: rest).map Backend.id).Nodup := (hrest.map Backend.id).nodup_iff.2 pool.nodup
    refine ⟨⟨b :: rest, hn⟩, map, ⟨hrest, .refl _⟩, ?_⟩
    have hfind : (Dict.keys map.entries).find? q = none := by
      rw [List.find?_eq_none]
      intro k hk hqk
      rw [hnone k hk] at hqk
      cases hqk
    unfold knownNames
    rw [List.find?_append, hfind, List.filterMap_cons_some hbm]
    exact List.find?_cons_of_pos hq

/-- The known name a request is routed by. -/
def taken (U : Unicode) (pool : BackendPool) (map : ModelMap) (name : String) : Option String :=
  if name ∈ knownNames pool map then some name else looseMatch U (knownNames pool map) name

theorem resolveName_eq_none_iff : resolveName U (modelAliases pool map) name = none ↔
    knownNames pool map = [] ∨ generic name = true := by
  rw [← modelAliases_eq_nil]
  unfold resolveName
  split
  · rename_i h
    exact iff_of_true rfl h
  · rename_i h
    refine iff_of_false ?_ h
    cases Dict.get? (modelAliases pool map) name <;> simp

/-- A name that is not every backend's resolves to the backends of the known name it is routed by. -/
theorem mem_resolveName (h : ¬ (knownNames pool map = [] ∨ generic name = true)) (i : String) :
    (∃ ids, resolveName U (modelAliases pool map) name = some ids ∧ i ∈ ids) ↔
      ∃ key, taken U pool map name = some key ∧ Bound pool map key i := by
  have hmem : ∀ k, k ∈ Dict.keys (modelAliases pool map) ↔ k ∈ knownNames pool map := fun k => by
    rw [mem_keys_modelAliases, mem_knownNames]
  rw [← modelAliases_eq_nil] at h
  unfold resolveName taken Bound
  rw [if_neg h]
  by_cases hk : name ∈ knownNames pool map
  · obtain ⟨ids, hids⟩ := Dict.exists_get?_of_mem_keys ((hmem name).2 hk)
    rw [if_pos hk, hids]
    simp [hids]
  · have hnone : Dict.get? (modelAliases pool map) name = none := Dict.get?_eq_none_iff.2 fun hm => hk ((hmem name).1 hm)
    rw [if_neg hk, hnone, looseMatch_modelAliases]
    cases looseMatch U (knownNames pool map) name with
    | none => simp
    | some key => cases hg : Dict.get? (modelAliases pool map) key <;> simp [hg]

theorem taken_long (hk : name ∉ knownNames pool map) (hlong : 3 ≤ (foldName U name).length) :
    taken U pool map name = (knownNames pool map).find? (stage U pool map (foldName U name)) := by
  unfold taken stage
  rw [if_neg hk]
  exact looseMatch_eq_stage _ hlong

theorem taken_short (hk : name ∉ knownNames pool map) (hshort : (foldName U name).length < 3) :
    taken U pool map name = none := by
  unfold taken looseMatch
  rw [if_neg hk]
  exact if_pos hshort

theorem Redeclared.nil_iff (h : Redeclared pool pool' map map') : knownNames pool' map' = [] ↔ knownNames pool map = [] := by
  rw [List.eq_nil_iff_forall_not_mem, List.eq_nil_iff_forall_not_mem]
  simp only [h.known_iff]

theorem Redeclared.open_iff (h : Redeclared pool pool' map map') :
    (knownNames pool' map' = [] ∨ generic name = true) ↔ (knownNames pool map = [] ∨ generic name = true) :=
  or_congr_left h.nil_iff

/-- A name that is every backend's is so in any order. -/
theorem orderFree_of_open (hall : knownNames pool map = [] ∨ generic name = true) : OrderFree U pool map name := by
  intro pool' map' hr
  have hnone : resolveName U (modelAliases pool map) name = none := resolveName_eq_none_iff.2 hall
  have hnone' : resolveName U (modelAliases pool' map') name = none := resolveName_eq_none_iff.2 (hr.open_iff.2 hall)
  rw [hnone, hnone']
  exact ⟨Iff.rfl, fun i => Iff.rfl⟩

/-- Every leader is the name routed by in some order, so where the order does not matter it has the name's backends. -/
theorem OrderFree.leader_iff (h : OrderFree U pool map name) (hall : ¬ (knownNames pool map = [] ∨ generic name = true))
    (hk : name ∉ knownNames pool map) (hlong : 3 ≤ (foldName U name).length) {k : String}
    (hlead : Leader pool map (stage U pool map (foldName U name)) k) (i : String) :
    (∃ ids, resolveName U (modelAliases pool map) name = some ids ∧ i ∈ ids) ↔ Bound pool map k i := by
  obtain ⟨pool', map', hr, hfind⟩ := hlead.exists_order
  have htaken : taken U pool' map' name = some k := by
    rw [taken_long (fun hm => hk ((hr.known_iff name).1 hm)) hlong, hr.stage_eq, hfind]
  rw [← (h pool' map' hr).2 i, mem_resolveName (fun h' => hall (hr.open_iff.1 h')), htaken, ← hr.bound_iff]
  simp

/-- Where the leaders have the same backends, the names routed by in two orders do. -/
theorem Redeclared.taken_iff (hr : Redeclared pool pool' map map') (hk : name ∉ knownNames pool map)
    (hlong : 3 ≤ (foldName U name).length)
    (hsame : ∀ k k', Leader pool map (stage U pool map (foldName U name)) k →
      Leader pool map (stage U pool map (foldName U name)) k' → ∀ i, Bound pool map k i ↔ Bound pool map k' i) (i : String) :
    (∃ key, taken U pool' map' name = some key ∧ Bound pool map key i) ↔
      ∃ key, taken U pool map name = some key ∧ Bound pool map key i := by
  have hk' : name ∉ knownNames pool' map' := fun hm => hk ((hr.known_iff name).1 hm)
  rw [taken_long hk hlong, taken_long hk' hlong, hr.stage_eq]
  cases hf : (knownNames pool map).find? (stage U pool map (foldName U name)) with
  | none =>
    have hf' : (knownNames pool' map').find? (stage U pool map (foldName U name)) = none := by
      rw [List.find?_eq_none] at hf ⊢
      intro k hm
      exact hf k ((hr.known_iff k).1 hm)
    rw [hf']
  | some k =>
    have hsome : ((knownNames pool' map').find? (stage U pool map (foldName U name))).isSome := by
      rw [List.find?_isSome]
      exact ⟨k, (hr.known_iff k).2 (List.mem_of_find?_eq_some hf), List.find?_some hf⟩
    obtain ⟨k', hf'⟩ := Option.isSome_iff_exists.1 hsome
    have hlead : Leader pool map (stage U pool map (foldName U name)) k := leader_of_find? hf
    have hlead' : Leader pool map (stage U pool map (foldName U name)) k' := (hr.leader_iff _ k').1 (leader_of_find? hf')
    rw [hf']
    simpa using hsame k' k hlead' hlead i

/-- A name's backends do not depend on the order of declaration exactly when nothing is known, the name is generic, a
known name or too short, or all names that come first in some order at the stage that decides have the same ones. -/
theorem orderFree_iff (U : Unicode) (pool : BackendPool) (map : ModelMap) (name : String) : OrderFree U pool map name ↔
    knownNames pool map = [] ∨ generic name = true ∨ name ∈ knownNames pool map ∨ (foldName U name).length < 3 ∨
      ∀ k k', Leader pool map (stage U pool map (foldName U name)) k →
        Leader pool map (stage U pool map (foldName U name)) k' → ∀ i, Bound pool map k i ↔ Bound pool map k' i := by
  by_cases hall : knownNames pool map = [] ∨ generic name = true
  · exact iff_of_true (orderFree_of_open hall) (hall.imp_right .inl)
  constructor
  · intro h
    by_cases hk : name ∈ knownNames pool map
    · exact .inr (.inr (.inl hk))
    by_cases hshort : (foldName U name).length < 3
    · exact .inr (.inr (.inr (.inl hshort)))
    refine .inr (.inr (.inr (.inr ?_)))
    intro k k' hlead hlead' i
    have hlong := Nat.not_lt.1 hshort
    exact (h.leader_iff hall hk hlong hlead i).symm.trans (h.leader_iff hall hk hlong hlead' i)
  · intro h pool' map' hr
    have hall' : ¬ (knownNames pool' map' = [] ∨ generic name = true) := fun h' => hall (hr.open_iff.1 h')
    constructor
    · exact iff_of_false (fun hn => hall' (resolveName_eq_none_iff.1 hn)) fun hn => hall (resolveName_eq_none_iff.1 hn)
    intro i
    rw [mem_resolveName hall', mem_resolveName hall]
    simp only [hr.bound_iff]
    by_cases hk : name ∈ knownNames pool map
    · rw [taken, taken, if_pos hk, if_pos ((hr.known_iff name).2 hk)]
    by_cases hshort : (foldName U name).length < 3
    · rw [taken_short hk hshort, taken_short (fun hm => hk ((hr.known_iff name).1 hm)) hshort]
    rcases h with h | h | h | h | h
    · exact absurd (.inl h) hall
    · exact absurd (.inr h) hall
    · exact absurd h hk
    · exact absurd h hshort
    · exact hr.taken_iff hk (Nat.not_lt.1 hshort) h i

/-- Two models of one family: their shared name binds to whichever was declared first. -/
theorem llama_depends_on_order :
    ¬ OrderFree Unicode.ascii .empty ⟨[("llama-3", ["gpu0"]), ("llama-2", ["gpu1"])], by decide⟩ "llama" := by
  intro h
  have hsame := h .empty ⟨[("llama-2", ["gpu1"]), ("llama-3", ["gpu0"])], by decide⟩ ⟨.refl _, .swap ..⟩
  obtain ⟨ids, hids, hmem⟩ := (hsame.2 "gpu1").1 ⟨["gpu1"], by decide +kernel, by decide⟩
  have hfirst : resolveName Unicode.ascii
      (modelAliases .empty ⟨[("llama-3", ["gpu0"]), ("llama-2", ["gpu1"])], by decide⟩) "llama" = some ["gpu0"] := by
    decide +kernel
  rw [hfirst] at hids
  cases hids
  revert hmem
  decide

end Order

end Dio.Gateway
