/-
The model names a gateway knows, lists and routes (`_model_aliases`, `_collect_model_names`,
`_resolve_model_backends`). The alias table joins the configured `model_map` with the backends' own
models; the listing adds what the backends report; the resolver reads the alias table alone, so a
reported name is routable only when it matches a known one.
-/
import DioServe.Gateway.Backend

namespace Dio.Gateway

open Data Py

/-! ## The alias table -/

/-- `model_map`: model name to backend ids, under distinct names. -/
structure ModelMap where
  entries : Dict String (List String)
  nodup : (Dict.keys entries).Nodup

/-- `table.setdefault(name, [])`, with `id` appended unless it is there. -/
def addAlias (table : Dict String (List String)) (name id : String) : Dict String (List String) :=
  let ids := (Dict.get? table name).getD []
  Dict.set table name (if id ∈ ids then ids else ids ++ [id])

/-- The ids of an entry that the pool has, or all of them when it has none. -/
def keptIds (pool : BackendPool) (ids : List String) : List String :=
  let kept := ids.filter (· ∈ pool.ids)
  if kept = [] then ids else kept

/-- A backend's own model as an alias. -/
def addOwnModel (table : Dict String (List String)) (b : Backend) : Dict String (List String) :=
  match b.ownModel with
  | some m => addAlias table m b.id
  | none => table

/-- `_model_aliases`. -/
def modelAliases (pool : BackendPool) (map : ModelMap) : Dict String (List String) :=
  pool.backends.foldl addOwnModel (map.entries.map fun p => (p.1, keptIds pool p.2))

/-! ## The listing -/

/-- The names a backend's `/v1/models` answer holds, up to the first entry that raises. -/
def reportedNames (U : Unicode) (b : Backend) : List Json → List String
  | [] => []
  | m :: ms =>
    match m.get "id" with
    | .error _ => []
    | .ok id =>
      let mid := id.orElse ((Json.str (b.ownModel.getD "")).orElse (.str b.id))
      if mid.truthy then str U mid :: reportedNames U b ms else reportedNames U b ms

/-- The names of one probe; `none` is a probe that failed or did not answer 200 with JSON. -/
def probedNames (U : Unicode) (b : Backend) (answer : Option Json) : List String :=
  match answer with
  | none => []
  | some body =>
    match (do (← body.get "data").orElse (.arr []) |>.elems : Except PyErr (List Json)) with
    | .ok ms => reportedNames U b ms
    | .error _ => []

/-- The names each backend of the pool reports, with its id. -/
def allProbed (U : Unicode) (pool : BackendPool) (probe : Backend → Option Json) : List (String × String) :=
  pool.backends.flatMap fun b => (probedNames U b (probe b)).map fun n => (n, b.id)

/-- `_collect_model_names`. -/
def collectModelNames (U : Unicode) (pool : BackendPool) (map : ModelMap) (probe : Backend → Option Json) :
    Dict String (List String) :=
  (allProbed U pool probe).foldl (fun t p => addAlias t p.1 p.2) (modelAliases pool map)

/-- The ids `/v1/models` and `/api/tags` list. -/
def listedModels (U : Unicode) (pool : BackendPool) (map : ModelMap) (probe : Backend → Option Json) : List String :=
  let names := Dict.keys (collectModelNames U pool map probe)
  if names = [] then ["dio-default"] else names

/-! ## Resolution -/

/-- A name that stands for any model. -/
def generic (name : String) : Bool := name = "" || name = "default" || name = "dio-default"

/-- `s.rsplit("/", 1)[-1]`. -/
def lastSegment (cs : List Char) : List Char := (cs.reverse.takeWhile (· ≠ '/')).reverse

/-- `name.lower().strip()`. -/
def foldName (U : Unicode) (name : String) : List Char := stripChars U (U.lower name.toList)

/-- The request is the known name, or its last path segment, up to case. -/
def sameName (U : Unicode) (lower : List Char) (key : String) : Bool :=
  lower = U.lower key.toList || lastSegment (U.lower key.toList) = lower

/-- One of the request and the known name's last path segment starts with the other. -/
def prefixName (U : Unicode) (lower : List Char) (key : String) : Bool :=
  lower.isPrefixOf (lastSegment (U.lower key.toList)) || (lastSegment (U.lower key.toList)).isPrefixOf lower

/-- The known name an unknown request is taken for. -/
def looseMatch (U : Unicode) (known : List String) (name : String) : Option String :=
  let lower := foldName U name
  if lower.length < 3 then none
  else (known.find? (sameName U lower)).orElse fun _ => known.find? (prefixName U lower)

/-- `_resolve_model_backends` of a text: `none` is every backend. -/
def resolveName (U : Unicode) (table : Dict String (List String)) (name : String) : Option (List String) :=
  if table = [] ∨ generic name then none
  else match Dict.get? table name with
    | some ids => some ids
    | none => some (((looseMatch U (Dict.keys table) name).bind (Dict.get? table)).getD [])

/-- `_resolve_model_backends`. -/
def resolveModelBackends (U : Unicode) (pool : BackendPool) (map : ModelMap) (name : Json) :
    Except PyErr (Option (List String)) :=
  let table := modelAliases pool map
  if table = [] ∨ name.truthy = false then .ok none
  else match name with
    | .str s => .ok (resolveName U table s)
    | .arr _ | .obj _ => .error .typeError
    | _ => .error .attributeError

/-- Routing accepts the name: every backend, or a list with a backend of the pool. -/
def Routable (U : Unicode) (pool : BackendPool) (map : ModelMap) (name : String) : Prop :=
  resolveModelBackends U pool map (.str name) = .ok none ∨
    ∃ ids, resolveModelBackends U pool map (.str name) = .ok (some ids) ∧ ∃ i ∈ ids, i ∈ pool.ids

/-- Resolving a text reads the alias table alone. -/
theorem resolveModelBackends_str (U : Unicode) (pool : BackendPool) (map : ModelMap) (name : String) :
    resolveModelBackends U pool map (.str name) = .ok (resolveName U (modelAliases pool map) name) := by
  unfold resolveModelBackends
  dsimp only
  split
  · rename_i h
    have hg : modelAliases pool map = [] ∨ generic name = true := by
      refine h.imp_right fun ht => ?_
      simp only [Json.truthy, ne_eq, decide_not, Bool.not_eq_false', decide_eq_true_eq] at ht
      simp [generic, ht]
    rw [resolveName, if_pos hg]
  · rfl

theorem routable_iff {U : Unicode} {pool : BackendPool} {map : ModelMap} {name : String} :
    Routable U pool map name ↔
      ∀ ids, resolveName U (modelAliases pool map) name = some ids → ∃ i ∈ ids, i ∈ pool.ids := by
  unfold Routable
  rw [resolveModelBackends_str]
  cases resolveName U (modelAliases pool map) name <;> simp

/-! ## Aliases -/

theorem get?_addAlias (t : Dict String (List String)) (name id m : String) :
    Dict.get? (addAlias t name id) m =
      if name = m then
        some (if id ∈ (Dict.get? t name).getD [] then (Dict.get? t name).getD [] else (Dict.get? t name).getD [] ++ [id])
      else Dict.get? t m := Dict.get?_set _ _ _ _

/-- A name's list after an alias has been added holds what it held, and the id. -/
theorem mem_addAlias {t : Dict String (List String)} {name id m : String} {i : String} :
    (∃ ids, Dict.get? (addAlias t name id) m = some ids ∧ i ∈ ids) ↔
      (∃ ids, Dict.get? t m = some ids ∧ i ∈ ids) ∨ (m = name ∧ i = id) := by
  rw [get?_addAlias]
  by_cases h : name = m
  · subst h
    cases hg : Dict.get? t name with
    | none => simp
    | some ids =>
      by_cases hid : id ∈ ids
      · rw [if_pos rfl, Option.getD_some, if_pos hid]
        simp only [Option.some.injEq, exists_eq_left', true_and]
        constructor
        · exact .inl
        · rintro (hi | rfl)
          · exact hi
          · exact hid
      · simp [hid]
  · simp [h, Ne.symm h]

theorem mem_keys_addAlias {t : Dict String (List String)} {name id m : String} :
    m ∈ Dict.keys (addAlias t name id) ↔ m = name ∨ m ∈ Dict.keys t := Dict.mem_keys_set

/-- The pool serves `name` under some entry of the table. -/
def ServedBy (pool : BackendPool) (t : Dict String (List String)) (name : String) : Prop :=
  ∃ i, (∃ ids, Dict.get? t name = some ids ∧ i ∈ ids) ∧ i ∈ pool.ids

theorem mem_foldl_addOwnModel {i m : String} : ∀ {bs : List Backend} {t : Dict String (List String)},
    (∃ ids, Dict.get? (bs.foldl addOwnModel t) m = some ids ∧ i ∈ ids) ↔
      (∃ ids, Dict.get? t m = some ids ∧ i ∈ ids) ∨ ∃ b ∈ bs, b.ownModel = some m ∧ b.id = i
  | [], t => by simp
  | b :: bs, t => by
    have hone : (∃ ids, Dict.get? (addOwnModel t b) m = some ids ∧ i ∈ ids) ↔
        (∃ ids, Dict.get? t m = some ids ∧ i ∈ ids) ∨ (b.ownModel = some m ∧ b.id = i) := by
      unfold addOwnModel
      cases hb : b.ownModel with
      | none => simp
      | some n =>
        rw [mem_addAlias]
        simp only [Option.some.injEq, eq_comm]
    rw [List.foldl_cons, mem_foldl_addOwnModel, hone]
    simp only [List.mem_cons, exists_eq_or_imp]
    exact or_assoc

theorem mem_keys_foldl_addOwnModel {m : String} : ∀ {bs : List Backend} {t : Dict String (List String)},
    m ∈ Dict.keys (bs.foldl addOwnModel t) ↔ m ∈ Dict.keys t ∨ ∃ b ∈ bs, b.ownModel = some m
  | [], t => by simp
  | b :: bs, t => by
    have hone : m ∈ Dict.keys (addOwnModel t b) ↔ m ∈ Dict.keys t ∨ b.ownModel = some m := by
      unfold addOwnModel
      cases hb : b.ownModel with
      | none => simp
      | some n => rw [mem_keys_addAlias, Option.some.injEq, eq_comm, or_comm]
    rw [List.foldl_cons, mem_keys_foldl_addOwnModel, hone]
    simp only [List.mem_cons, exists_eq_or_imp]
    exact or_assoc

/-- A name's entry of `model_map` names a backend of the pool. -/
def MapServes (pool : BackendPool) (map : ModelMap) (name : String) : Prop :=
  ∃ ids, Dict.get? map.entries name = some ids ∧ ∃ i ∈ ids, i ∈ pool.ids

/-- Some backend of the pool has the name as its own model. -/
def OwnModel (pool : BackendPool) (name : String) : Prop := ∃ b ∈ pool.backends, b.ownModel = some name

theorem mem_keptIds {pool : BackendPool} {ids : List String} :
    (∃ i ∈ keptIds pool ids, i ∈ pool.ids) ↔ ∃ i ∈ ids, i ∈ pool.ids := by
  unfold keptIds
  dsimp only
  split
  · exact Iff.rfl
  · constructor
    · rintro ⟨i, hi, hp⟩; exact ⟨i, (List.mem_filter.1 hi).1, hp⟩
    · rintro ⟨i, hi, hp⟩; exact ⟨i, List.mem_filter.2 ⟨hi, by simpa using hp⟩, hp⟩

/-- The known names. -/
theorem mem_keys_modelAliases {pool : BackendPool} {map : ModelMap} {name : String} :
    name ∈ Dict.keys (modelAliases pool map) ↔ name ∈ Dict.keys map.entries ∨ OwnModel pool name := by
  unfold modelAliases OwnModel
  rw [mem_keys_foldl_addOwnModel]
  simp [Dict.keys]

/-- A known name's backends include one of the pool exactly when its entry of `model_map` names one
or it is some backend's own model. -/
theorem servedBy_modelAliases {pool : BackendPool} {map : ModelMap} {name : String} :
    ServedBy pool (modelAliases pool map) name ↔ MapServes pool map name ∨ OwnModel pool name := by
  unfold ServedBy modelAliases
  simp only [mem_foldl_addOwnModel]
  have hmap : Dict.get? (map.entries.map fun p => (p.1, keptIds pool p.2)) name =
      (Dict.get? map.entries name).map (keptIds pool) := Dict.get?_map (fun _ => keptIds pool) name map.entries
  constructor
  · rintro ⟨i, ⟨ids, hids, hi⟩ | ⟨b, hb, hm, rfl⟩, hp⟩
    · rw [hmap] at hids
      cases hg : Dict.get? map.entries name with
      | none => rw [hg] at hids; cases hids
      | some ids' =>
        rw [hg] at hids
        cases hids
        exact .inl ⟨ids', hg, mem_keptIds.1 ⟨i, hi, hp⟩⟩
    · exact .inr ⟨b, hb, hm⟩
  · rintro (⟨ids, hids, hex⟩ | ⟨b, hb, hm⟩)
    · obtain ⟨i, hi, hp⟩ := mem_keptIds.2 hex
      exact ⟨i, .inl ⟨keptIds pool ids, by rw [hmap, hids]; rfl, hi⟩, hp⟩
    · exact ⟨b.id, .inr ⟨b, hb, hm, rfl⟩, List.mem_map.2 ⟨b, hb, rfl⟩⟩

/-- The listed names are the known ones and those reported. -/
theorem mem_keys_collect {U : Unicode} {pool : BackendPool} {map : ModelMap} {probe : Backend → Option Json}
    {name : String} : name ∈ Dict.keys (collectModelNames U pool map probe) ↔
      name ∈ Dict.keys (modelAliases pool map) ∨ name ∈ (allProbed U pool probe).map Prod.fst := by
  have h : ∀ (ps : List (String × String)) (t : Dict String (List String)),
      name ∈ Dict.keys (ps.foldl (fun t p => addAlias t p.1 p.2) t) ↔ name ∈ Dict.keys t ∨ name ∈ ps.map Prod.fst := by
    intro ps
    induction ps with
    | nil => simp
    | cons p ps ih =>
      intro t
      rw [List.foldl_cons, ih, mem_keys_addAlias, List.map_cons, List.mem_cons]
      tauto
  exact h _ _

/-! ## Routability -/

/-- A known name is routable when it is generic or served. -/
theorem routable_known {U : Unicode} {pool : BackendPool} {map : ModelMap} {name : String}
    (hk : name ∈ Dict.keys (modelAliases pool map)) :
    Routable U pool map name ↔ generic name = true ∨ MapServes pool map name ∨ OwnModel pool name := by
  rw [← servedBy_modelAliases]
  obtain ⟨ids, hids⟩ := Dict.exists_get?_of_mem_keys hk
  have hne : modelAliases pool map ≠ [] := fun h => by rw [h] at hk; cases hk
  rw [routable_iff]
  unfold resolveName
  by_cases hg : generic name = true
  · simp [hg]
  · rw [if_neg (by simp [hne, hg]), hids]
    simp [ServedBy, hids, hg]

/-- An unknown name is routable when nothing is known, it is generic, or the known name it is taken
for is served. -/
theorem routable_unknown {U : Unicode} {pool : BackendPool} {map : ModelMap} {name : String}
    (hk : name ∉ Dict.keys (modelAliases pool map)) :
    Routable U pool map name ↔ modelAliases pool map = [] ∨ generic name = true ∨
      ∃ key ∈ looseMatch U (Dict.keys (modelAliases pool map)) name, MapServes pool map key ∨ OwnModel pool key := by
  have hnone : Dict.get? (modelAliases pool map) name = none := Dict.get?_eq_none_iff.2 hk
  simp only [← servedBy_modelAliases]
  rw [routable_iff]
  unfold resolveName
  by_cases hempty : modelAliases pool map = []
  · simp [hempty]
  · by_cases hg : generic name = true
    · simp [hg]
    · rw [if_neg (by simp [hempty, hg]), hnone]
      cases hm : looseMatch U (Dict.keys (modelAliases pool map)) name with
      | none => simp [hempty, hg]
      | some key =>
        simp only [hempty, hg, Option.bind_some, Option.mem_def, Option.some.injEq, exists_eq_left', false_or,
          Bool.false_eq_true]
        cases hgk : Dict.get? (modelAliases pool map) key <;> simp [ServedBy, hgk]

/-! ## The listing is routable -/

/-- The names anything is known about: those of `model_map`, then the backends' own. -/
def knownNames (pool : BackendPool) (map : ModelMap) : List String :=
  Dict.keys map.entries ++ pool.backends.filterMap Backend.ownModel

/-- Some backend of the pool serves the known name. -/
def Served (pool : BackendPool) (map : ModelMap) (name : String) : Prop :=
  MapServes pool map name ∨ OwnModel pool name

theorem mem_knownNames {pool : BackendPool} {map : ModelMap} {name : String} :
    name ∈ knownNames pool map ↔ name ∈ Dict.keys map.entries ∨ OwnModel pool name := by
  simp [knownNames, OwnModel, List.mem_append, List.mem_filterMap]

theorem Served.known {pool : BackendPool} {map : ModelMap} {name : String} (h : Served pool map name) :
    name ∈ knownNames pool map :=
  mem_knownNames.2 (h.imp_left fun ⟨_, hids, _⟩ => Dict.mem_keys_of_get? hids)

/-- An alias added to a table puts its name last, unless the name is there. -/
theorem keys_addAlias (t : Dict String (List String)) (name id : String) :
    Dict.keys (addAlias t name id) = if name ∈ Dict.keys t then Dict.keys t else Dict.keys t ++ [name] := by
  unfold addAlias
  split
  · rename_i h; exact Dict.keys_set_of_mem _ h
  · rename_i h; exact Dict.keys_set_of_not_mem _ h

/-- A search of the table's names sees the known names in order: a repeated one changes nothing. -/
theorem find?_keys_foldl_addOwnModel (q : String → Bool) : ∀ (bs : List Backend) (t : Dict String (List String)),
    (Dict.keys (bs.foldl addOwnModel t)).find? q = (Dict.keys t ++ bs.filterMap Backend.ownModel).find? q
  | [], t => by simp
  | b :: bs, t => by
    rw [List.foldl_cons, find?_keys_foldl_addOwnModel q bs]
    cases hb : b.ownModel with
    | none => simp [addOwnModel, hb]
    | some m =>
      rw [List.filterMap_cons_some hb, addOwnModel, hb, keys_addAlias]
      split
      · rename_i hm
        simp only [List.find?_append, List.find?_cons]
        cases hq : q m with
        | false => rfl
        | true =>
          have hsome : ((Dict.keys t).find? q).isSome := List.find?_isSome.2 ⟨m, hm, hq⟩
          cases hf : (Dict.keys t).find? q with
          | none => rw [hf] at hsome; cases hsome
          | some _ => rfl
      · rw [List.append_assoc, List.singleton_append]

theorem find?_keys_modelAliases (q : String → Bool) (pool : BackendPool) (map : ModelMap) :
    (Dict.keys (modelAliases pool map)).find? q = (knownNames pool map).find? q := by
  have hkeys : Dict.keys (map.entries.map fun p => (p.1, keptIds pool p.2)) = Dict.keys map.entries := by
    simp [Dict.keys, Function.comp_def]
  rw [modelAliases, find?_keys_foldl_addOwnModel, hkeys, knownNames]

theorem looseMatch_modelAliases (U : Unicode) (pool : BackendPool) (map : ModelMap) (name : String) :
    looseMatch U (Dict.keys (modelAliases pool map)) name = looseMatch U (knownNames pool map) name := by
  unfold looseMatch
  simp only [find?_keys_modelAliases]

theorem modelAliases_eq_nil {pool : BackendPool} {map : ModelMap} :
    modelAliases pool map = [] ↔ knownNames pool map = [] := by
  have hmem : ∀ name, name ∈ Dict.keys (modelAliases pool map) ↔ name ∈ knownNames pool map := fun name => by
    rw [mem_keys_modelAliases, mem_knownNames]
  rw [show modelAliases pool map = [] ↔ Dict.keys (modelAliases pool map) = [] by simp [Dict.keys],
    List.eq_nil_iff_forall_not_mem, List.eq_nil_iff_forall_not_mem]
  simp only [hmem]

/-- A reported name is safe to list: it is generic, served, or taken for a served one. -/
def SafeReport (U : Unicode) (pool : BackendPool) (map : ModelMap) (name : String) : Prop :=
  generic name = true ∨ Served pool map name ∨
    (name ∉ knownNames pool map ∧ ∃ key ∈ looseMatch U (knownNames pool map) name, Served pool map key)

theorem routable_iff_safeReport {U : Unicode} {pool : BackendPool} {map : ModelMap} {name : String} :
    Routable U pool map name ↔ knownNames pool map = [] ∨ SafeReport U pool map name := by
  by_cases hk : name ∈ knownNames pool map
  · have hne : knownNames pool map ≠ [] := List.ne_nil_of_mem hk
    rw [routable_known (mem_keys_modelAliases.2 (mem_knownNames.1 hk))]
    simp [SafeReport, Served, hk, hne]
  · rw [routable_unknown (fun h => hk (mem_knownNames.2 (mem_keys_modelAliases.1 h))), looseMatch_modelAliases,
      modelAliases_eq_nil]
    have hns : ¬ Served pool map name := fun h => hk h.known
    simp only [SafeReport, hns, hk, not_false_eq_true, true_and, false_or]
    rfl

/-- Every listed model is routable exactly when every name of `model_map` is generic or served, and,
where any model is known, every reported name is safe to list. -/
theorem listedModels_routable_iff (U : Unicode) (pool : BackendPool) (map : ModelMap) (probe : Backend → Option Json) :
    (∀ name ∈ listedModels U pool map probe, Routable U pool map name) ↔
      (∀ name ∈ Dict.keys map.entries, generic name = true ∨ Served pool map name) ∧
        (knownNames pool map = [] ∨ ∀ name ∈ (allProbed U pool probe).map Prod.fst, SafeReport U pool map name) := by
  have hlisted : (∀ name ∈ listedModels U pool map probe, Routable U pool map name) ↔
      ∀ name ∈ Dict.keys (collectModelNames U pool map probe), Routable U pool map name := by
    unfold listedModels
    dsimp only
    split
    -- with no name at all the list has the default alone
    · rename_i h
      have hdefault : Routable U pool map "dio-default" := routable_iff_safeReport.2 (.inr (.inl (by decide)))
      simp [h, hdefault]
    · rfl
  rw [hlisted]
  simp only [mem_keys_collect, mem_keys_modelAliases, routable_iff_safeReport]
  by_cases hnil : knownNames pool map = []
  · have hmap : ∀ name, name ∉ Dict.keys map.entries := fun name h => by
      have := mem_knownNames.2 (.inl h : name ∈ Dict.keys map.entries ∨ OwnModel pool name)
      rw [hnil] at this; cases this
    simp [hnil, hmap]
  · simp only [hnil, false_or]
    constructor
    · intro h
      refine ⟨fun name hn => ?_, fun name hn => h name (.inr hn)⟩
      rcases h name (.inl (.inl hn)) with hg | hs | ⟨hk, -⟩
      · exact .inl hg
      · exact .inr hs
      · exact absurd (mem_knownNames.2 (.inl hn)) hk
    · rintro ⟨hmap, hprobed⟩ name ((hn | hown) | hn)
      · exact (hmap name hn).imp_right .inl
      · exact .inr (.inl (.inr hown))
      · exact hprobed name hn

/-- One backend serving `llama` that also reports `mistral`: `mistral` is listed and not routable. -/
theorem reported_not_routable :
    ∃ name ∈ listedModels Unicode.ascii (.ofList [{ id := "gpu0", baseUrl := "http://a", model := some "llama" }])
        ⟨[], List.nodup_nil⟩ fun _ => some (.obj [("data", .arr [.obj [("id", .str "mistral")]])]),
      ¬ Routable Unicode.ascii (.ofList [{ id := "gpu0", baseUrl := "http://a", model := some "llama" }])
        ⟨[], List.nodup_nil⟩ name := by
  refine ⟨"mistral", by decide, ?_⟩
  rw [routable_iff]
  intro h
  obtain ⟨i, hi, -⟩ := h [] (by decide)
  cases hi

end Dio.Gateway
