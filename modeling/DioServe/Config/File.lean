/-
The topology of a configuration file (`config_file.py`): the backends of `dio.yaml` and the table of the
models they serve. `_parse_backend` reads one entry; `load_config_file` goes through the entries in order.
-/
import DioServe.Gateway.Models

namespace Dio.Config

open Data Py Gateway

/-! ## The interpreter -/

/-- The parts of `urlsplit` that are looked at. -/
structure UrlParts where
  scheme : String
  hostname : Option String

/-- What the loader is given: the interpreter's tables, its `urlsplit` (which raises a ValueError with a
message), the path of the file, and the text that stands for a member that is none where a backend
has a text. -/
structure Loader where
  U : Unicode
  urlsplit : String → Except String UrlParts
  path : String
  textFor : Json → String

/-- The exceptions of `_parse_backend`. -/
inductive ParseExn
  | valueError (message : String)
  | raised (e : PyErr)

/-- The exceptions of `load_config_file`. -/
inductive LoadExn
  | configError (message : String)
  | raised (e : PyErr)

/-- `type(j).__name__`. -/
def typeName : Json → String
  | .null => "NoneType"
  | .bool _ => "bool"
  | .int _ => "int"
  | .float _ => "float"
  | .str _ => "str"
  | .arr _ => "list"
  | .obj _ => "dict"

section Entry

variable (L : Loader)

/-! ## Members of an entry -/

def member {α : Type} (x : Except PyErr α) : Except ParseExn α := x.mapError .raised

/-- A member kept as it is, where a backend has a text. -/
def asText : Json → String
  | .str s => s
  | j => L.textFor j

/-- `float(j)`; only a text raises a ValueError. -/
def asFloat (j : Json) : Except ParseExn PyFloat :=
  match j.toFloat L.U with
  | .ok x => .ok x
  | .error .valueError => .error (.valueError ("could not convert string to float: " ++ repr L.U j))
  | .error e => .error (.raised e)

/-- `j.lower()`. -/
def lowered : Json → Except PyErr String
  | .str s => .ok (String.ofList (L.U.lower s.toList))
  | _ => .error .attributeError

/-- `j.rstrip("/")`. -/
def rstripped : Json → Except PyErr String
  | .str s => .ok (rstripSlash s)
  | _ => .error .attributeError

/-- `raw.get("models") or raw.get("model")`, one name as the list of it and nothing as the empty list. -/
def rawModels (raw : Json) : Except PyErr Json := do
  match (← raw.get "models").orElse (← raw.get "model") with
  | .str name => return .arr [.str name]
  | .null => return .arr []
  | models => return models

/-- The texts that `",".join` is given. -/
def joinable : List Json → Except PyErr (List String)
  | [] => .ok []
  | .str s :: js => do return s :: (← joinable js)
  | _ :: _ => .error .typeError

/-- The model names of an entry. -/
def modelNames (raw : Json) : Except PyErr (List String) := do joinable (← (← rawModels raw).elems)

/-! ## Validating a URL -/

/-- `_BLOCKED_BACKEND_HOSTS`. -/
def blockedBackendHosts : List String := ["169.254.169.254", "fd00:ec2::254", "metadata.google.internal"]

/-- `validate_backend_url`. -/
def validateBackendUrl (baseUrl : String) (backendId : Json) : Except ParseExn String :=
  let refuse (problem : String) : Except ParseExn String :=
    .error (.valueError ("backend " ++ repr L.U backendId ++ ": " ++ problem))
  let url := String.ofList (stripChars L.U baseUrl.toList)
  if url = "" then refuse "base_url must be a non-empty URL"
  else if url.toList.any L.U.isSpace then refuse ("base_url contains whitespace: " ++ reprStr L.U url)
  else match L.urlsplit url with
    | .error message => .error (.valueError message)
    | .ok parts =>
      if parts.scheme ≠ "http" ∧ parts.scheme ≠ "https" then
        refuse ("base_url must start with http:// or https:// (got " ++
          reprStr L.U (if parts.scheme = "" then "no scheme" else parts.scheme) ++ ")")
      else match parts.hostname.filter (· ≠ "") with
        | none => refuse ("base_url has no host: " ++ reprStr L.U url)
        | some host =>
          if host ∈ blockedBackendHosts then refuse ("refusing to forward to metadata host " ++ reprStr L.U host)
          else .ok url

/-! ## One entry -/

/-- The API style of an engine. -/
def styleOf (engine : String) : ApiStyle :=
  if engine = "ollama" then .openai
  else if engine = "tgi" ∨ engine = "text-generation-inference" then .tgiGenerate
  else .openai

/-- An entry has a URL. -/
def requireUrl (bid url : Json) : Except ParseExn Unit :=
  if url.truthy then .ok () else .error (.valueError ("Backend '" ++ str L.U bid ++ "' missing 'url' field"))

/-- `_parse_backend`. -/
def parseBackend (raw : Json) (index : Nat) : Except ParseExn Backend := do
  let bid := ((← member (raw.get "id")).orElse (← member (raw.get "name"))).orElse (.str s!"backend-{index}")
  let url := ((← member (raw.get "url")).orElse (← member (raw.get "base_url"))).orElse
    (← member (raw.getD "address" (.str "")))
  requireUrl L bid url
  let engine ← member (lowered L
    (((← member (raw.get "engine")).orElse (← member (raw.get "type"))).orElse (.str "openai")))
  let models ← member (rawModels raw)
  let baseUrl ← member (rstripped url)
  let tier ← member (raw.getD "tier" (.str "small"))
  -- the primary model
  let model ← member (if models.truthy then some <$> models.head else .ok none)
  let vram ← member (raw.getD "vram" (.int 24000))
  let totalVramMb ← asFloat L ((← member (raw.get "total_vram_mb")).orElse vram)
  let freeVramMb ← asFloat L ((← member (raw.get "free_vram_mb")).orElse vram)
  let apiKey ← member (raw.get "api_key")
  let healthPath ← member (raw.getD "health_path" (.str "/health"))
  let metricsPath ← member (raw.getD "metrics_path" (.str "/metrics"))
  -- the labels join the model names
  let _ ← member (modelNames raw)
  let baseUrl ← validateBackendUrl L baseUrl bid
  return {
    id := asText L bid
    baseUrl := baseUrl
    tier := asText L tier
    model := model.map (asText L)
    totalVramMb := totalVramMb
    freeVramMb := freeVramMb
    apiStyle := styleOf engine
    apiKey := if apiKey.truthy then some (str L.U apiKey) else none
    healthPath := asText L healthPath
    metricsPath := asText L metricsPath }

/-! ## All entries -/

/-- The backends and the table of models loaded so far. -/
structure Topology where
  backends : List Backend
  modelMap : ModelMap

def Topology.empty : Topology := ⟨[], ⟨[], List.nodup_nil⟩⟩

/-- `model_map.setdefault(name, []).append(id)`. -/
def bindModel (id : String) (map : ModelMap) (name : String) : ModelMap :=
  ⟨Dict.set map.entries name ((Dict.get? map.entries name).getD [] ++ [id]), Dict.nodup_keys_set map.nodup⟩

/-- An entry as a mapping: a text is a URL. -/
def entryAt (i : Nat) : Json → Json
  | .str url => .obj [("url", .str url), ("id", .str s!"b{i}")]
  | raw => raw

/-- One entry: its backend, bound to each of its models. -/
def addEntry (top : Topology) (i : Nat) (raw : Json) : Except LoadExn Topology :=
  match parseBackend L (entryAt i raw) i with
  -- a ValueError names the file, other exceptions pass as they are
  | .error (.valueError message) => .error (.configError (L.path ++ ": " ++ message))
  | .error (.raised e) => .error (.raised e)
  | .ok b => do
    let names ← (modelNames (entryAt i raw)).mapError .raised
    return ⟨top.backends ++ [b], names.foldl (bindModel b.id) top.modelMap⟩

def addEntries : Nat → List Json → Topology → Except LoadExn Topology
  | _, [], top => .ok top
  | i, raw :: raws, top => do addEntries (i + 1) raws (← addEntry L top i raw)

/-- The list of the entries; a mapping of ids to URLs stands for one. -/
def rawBackends (data : Obj) : Except LoadExn (List Json) :=
  match (((Dict.get? data "backends").getD .null).orElse ((Dict.get? data "backend").getD .null)).orElse (.arr []) with
  | .arr raws => .ok raws
  | .obj urls => .ok (urls.map fun p => .obj [("id", .str p.1), ("url", p.2)])
  | raw => .error (.configError (L.path ++ ": 'backends' must be a list of backend entries, got " ++ typeName raw ++ "."))

/-- The backends and the `model_map` of `load_config_file`. -/
def loadTopology : Json → Except LoadExn Topology
  | .obj data => do addEntries L 0 (← rawBackends L data) .empty
  | data => .error (.configError (L.path ++ ": expected a mapping at the top level but found " ++ typeName data ++
      ". See dio.example.yaml for the expected shape."))

/-! ## What is loaded -/

theorem member_eq_ok {α : Type} {x : Except PyErr α} {a : α} : member x = .ok a ↔ x = .ok a := by
  cases x <;> simp [member, Except.mapError]

theorem joinable_eq_ok : ∀ {js : List Json} {names : List String}, joinable js = .ok names → js = names.map .str
  | [], _, h => by cases h; rfl
  | .str s :: js, names, h => by
    obtain ⟨names', hnames, h⟩ := bind_eq_ok.1 h
    cases h
    rw [List.map_cons, ← joinable_eq_ok hnames]

theorem rawModels_ne_str {raw : Json} {s : String} : rawModels raw ≠ .ok (.str s) := by
  intro h
  obtain ⟨models, -, h⟩ := bind_eq_ok.1 h
  obtain ⟨model, -, h⟩ := bind_eq_ok.1 h
  cases hm : models.orElse model <;> rw [hm] at h <;> cases h

/-- The primary model is the first of an entry's names. -/
theorem primary_model {raw models : Json} {names : List String} {model : Option Json} (hraw : rawModels raw = .ok models)
    (hmodel : (if models.truthy then some <$> models.head else .ok none : Except PyErr (Option Json)) = .ok model)
    (hnames : modelNames raw = .ok names) : model.map (asText L) = names.head? := by
  have hjoin : (models.elems >>= joinable) = .ok names := by
    rw [← hnames, modelNames, hraw]
    rfl
  obtain ⟨js, hjs, hjoin⟩ := bind_eq_ok.1 hjoin
  obtain rfl := joinable_eq_ok hjoin
  cases models with
  | arr xs =>
    cases hjs
    cases names with
    | nil => cases hmodel; rfl
    | cons name names => cases hmodel; rfl
  | obj kvs =>
    cases kvs with
    | nil =>
      cases hmodel
      cases names with
      | nil => rfl
      | cons _ _ => cases hjs
    | cons _ _ => cases hmodel
  | str s => exact absurd hraw rawModels_ne_str
  | null | bool _ | int _ | float _ => cases hjs

/-- The model of a backend is the first of its entry's names. -/
theorem parseBackend_model {raw : Json} {i : Nat} {b : Backend} (h : parseBackend L raw i = .ok b) :
    ∃ names, modelNames raw = .ok names ∧ b.model = names.head? := by
  simp only [parseBackend, bind_eq_ok, member_eq_ok] at h
  obtain ⟨id, -, name, -, url, -, baseUrl, -, address, -, -, -, declared, -, type, -, engine, -, models, hmodels, rstripped, -,
    tier, -, model, hmodel, vram, -, h⟩ := h
  obtain ⟨total, -, totalVramMb, -, free, -, freeVramMb, -, apiKey, -, healthPath, -, metricsPath, -, names, hnames,
    url', -, h⟩ := h
  cases h
  exact ⟨names, hnames, primary_model L hmodels hmodel hnames⟩

/-- The entry `raw` of a configuration, at the place `i`. -/
def IsEntry (data : Json) (i : Nat) (raw : Json) : Prop :=
  ∃ members raws raw₀, data = .obj members ∧ rawBackends L members = .ok raws ∧ raws[i]? = some raw₀ ∧ raw = entryAt i raw₀

theorem addEntry_backends {top top' : Topology} {i : Nat} {raw : Json} (h : addEntry L top i raw = .ok top') :
    ∃ b, parseBackend L (entryAt i raw) i = .ok b ∧ top'.backends = top.backends ++ [b] := by
  unfold addEntry at h
  split at h
  · cases h
  · cases h
  · rename_i b hb
    obtain ⟨names, -, h⟩ := bind_eq_ok.1 h
    cases h
    exact ⟨b, hb, rfl⟩

/-- Going through the entries adds the backend of each. -/
theorem addEntries_backends : ∀ {raws : List Json} {i : Nat} {top top' : Topology}, addEntries L i raws top = .ok top' →
    ∀ b ∈ top'.backends, b ∈ top.backends ∨
      ∃ j raw, raws[j]? = some raw ∧ parseBackend L (entryAt (i + j) raw) (i + j) = .ok b
  | [], _, _, _, h, b, hb => by cases h; exact .inl hb
  | raw :: raws, i, top, top', h, b, hb => by
    obtain ⟨top₁, hone, h⟩ := bind_eq_ok.1 h
    obtain ⟨b₁, hparse, hbackends⟩ := addEntry_backends L hone
    rcases addEntries_backends h b hb with hb | ⟨j, raw', hraw, hb⟩
    · rw [hbackends] at hb
      rcases List.mem_append.1 hb with hb | hb
      · exact .inl hb
      · rw [List.mem_singleton.1 hb]
        exact .inr ⟨0, raw, rfl, hparse⟩
    · refine .inr ⟨j + 1, raw', hraw, ?_⟩
      rw [show i + (j + 1) = i + 1 + j by omega]
      exact hb

/-- Every backend loaded is read from an entry. -/
theorem loadTopology_backends {data : Json} {top : Topology} (h : loadTopology L data = .ok top) {b : Backend}
    (hb : b ∈ top.backends) : ∃ i raw, IsEntry L data i raw ∧ parseBackend L raw i = .ok b := by
  unfold loadTopology at h
  split at h
  · rename_i members
    obtain ⟨raws, hraws, h⟩ := bind_eq_ok.1 h
    rcases addEntries_backends L h b hb with hb | ⟨j, raw, hraw, hb⟩
    · cases hb
    · rw [Nat.zero_add] at hb
      exact ⟨j, _, ⟨members, raws, raw, rfl, hraws, hraw, rfl⟩, hb⟩
  · cases h

end Entry

end Dio.Config
