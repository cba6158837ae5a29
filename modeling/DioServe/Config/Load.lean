/-
The whole of `load_config_file`: the topology, the sections with the settings, and the `DIOConfig` they are
given to. Which exceptions it lets out: only those of a backend entry that are ValueErrors become
ConfigErrors.
-/
import DioServe.Config.File

namespace Dio.Config

open Data Py Gateway

/-! ## Settings -/

/-- The fields of `DIOConfig` that a file can set. -/
structure DIOConfig where
  strategy : String := "nlms"
  nlmsMode : String := "dual"
  ablation : String := "full"
  sloMs : PyFloat := .fin 5000
  admissionOff : Bool := false
  admissionMode : String := "empirical"
  admissionPercentile : PyFloat := .fin 95
  cacheBonusMs : PyFloat := .fin 200
  affinityCacheSize : Int := 2048
  engineMetrics : Bool := true
  learnerRobust : Bool := true
  tokenizerName : Option String := none
  useTokenizer : Bool := true
  host : String := "0.0.0.0"
  port : Int := 8085
  requestTimeoutS : PyFloat := .fin 300
  bodySizeCapBytes : Int := 8 * 1024 * 1024
  promptCharsCap : Int := 1000000
  apiKey : Option String := none
  protectDebug : Bool := true
  dataPlaneAuth : Bool := false

/-- `config_kwargs`: the fields a file gives. Choices and texts are handed on as they are; numbers and
flags have gone through `float`, `int` and `bool`. -/
structure Kwargs where
  strategy : Option Json
  nlmsMode : Option Json
  ablation : Option Json
  cacheBonusMs : Option PyFloat
  affinityCacheSize : Option Int
  learnerRobust : Option Bool
  admissionMode : Option Json
  sloMs : Option PyFloat
  admissionPercentile : Option PyFloat
  admissionOff : Bool
  engineMetrics : Option Bool
  host : Option Json
  port : Option Int
  requestTimeoutS : Option PyFloat
  bodySizeCapBytes : Option Int
  promptCharsCap : Option Int
  apiKey : Option Json
  protectDebug : Option Bool
  dataPlaneAuth : Option Bool
  tokenizer : Option Json

/-- `data.get(name) or {}`. -/
def sectionOf (data : Json) (name : String) : Except PyErr Json := do return (← data.get name).orElse (.obj [])

/-- `if section.get(key): ... = section[key]`. -/
def chosen (sec : Json) (key : String) : Except PyErr (Option Json) := do
  let v ← sec.get key
  return if v.truthy then some v else none

/-- `if section.get(key) is not None: ... = convert(section[key])`. -/
def given {α : Type} (convert : Json → Except PyErr α) (sec : Json) (key : String) : Except PyErr (Option α) := do
  let v ← sec.get key
  if v.isNull then return none else return some (← convert v)

/-- `int(j)`, which refuses a text of more than 4300 digits. -/
def asInt (U : Unicode) : Json → Except PyErr Int
  | .str s =>
    if 4300 < (s.toList.filter fun c => (U.digitVal c).isSome).length then .error .valueError else intOfStr U s
  | j => j.toInt U

def asBool (j : Json) : Except PyErr Bool := .ok j.truthy

/-- The budget; the scheduler's counts when the admission section has none. -/
def givenSlo (U : Unicode) (admission sched : Json) : Except PyErr (Option PyFloat) := do
  let slo ← admission.get "slo_ms"
  if slo.isNull then given (Json.toFloat U) sched "slo_ms" else given (Json.toFloat U) admission "slo_ms"

/-- The settings of a file, in the order they are read. -/
def configKwargs (U : Unicode) (data : Json) : Except PyErr Kwargs := do
  let sched ← sectionOf data "scheduler"
  let admission ← sectionOf data "admission"
  let server ← sectionOf data "server"
  let strategy ← chosen sched "strategy"
  let nlmsMode ← chosen sched "nlms_mode"
  let ablation ← chosen sched "ablation"
  let cacheBonusMs ← given (Json.toFloat U) sched "cache_bonus_ms"
  let affinityCacheSize ← given (asInt U) sched "affinity_cache_size"
  let learnerRobust ← given asBool sched "learner_robust"
  let admissionMode ← chosen admission "mode"
  let sloMs ← givenSlo U admission sched
  let admissionPercentile ← given (Json.toFloat U) admission "percentile"
  let admissionOff := ((← admission.get "off").orElse (← admission.get "disabled")).truthy
  let engineMetrics ← given asBool sched "engine_metrics"
  let host ← chosen server "host"
  let port ← given (asInt U) server "port"
  let requestTimeoutS ← given (Json.toFloat U) server "timeout"
  let bodySizeCapBytes ← given (asInt U) server "body_size_cap_bytes"
  let promptCharsCap ← given (asInt U) server "prompt_chars_cap"
  let security ← sectionOf data "security"
  let apiKey ← chosen security "api_key"
  let protectDebug ← given asBool security "protect_debug"
  let dataPlaneAuth ← given asBool security "data_plane_auth"
  let tokenizer ← chosen sched "tokenizer"
  return {
    strategy, nlmsMode, ablation, cacheBonusMs, affinityCacheSize, learnerRobust, admissionMode, sloMs,
    admissionPercentile, admissionOff, engineMetrics, host, port, requestTimeoutS, bodySizeCapBytes, promptCharsCap,
    apiKey, protectDebug, dataPlaneAuth, tokenizer }

/-! ## `DIOConfig(...)` -/

def strategies : List String := ["nlms", "rls", "ewma", "static", "round_robin", "least_loaded"]

def nlmsModes : List String := ["dual", "single"]

def ablations : List String := ["full", "no_queue", "no_vram", "no_vram_hard", "no_tier", "no_cache", "no_dual"]

def admissionModes : List String := ["absolute", "empirical", "strict", "rank_only"]

/-- A field of a `Literal` type takes its members and nothing else. -/
def literal (members : List String) (default : String) : Option Json → Except PyErr String
  | none => .ok default
  | some (.str s) => if s ∈ members then .ok s else .error .valueError
  | some _ => .error .valueError

/-- A field of type `str` takes a text. -/
def text (default : String) : Option Json → Except PyErr String
  | none => .ok default
  | some (.str s) => .ok s
  | some _ => .error .valueError

/-- A field of type `Optional[str]`, left out or given. -/
def optionalText : Option Json → Except PyErr (Option String)
  | none => .ok none
  | some (.str s) => .ok (some s)
  | some _ => .error .valueError

/-- `DIOConfig(**config_kwargs)`; the exception for a field that is not accepted is a ValueError. -/
def DIOConfig.ofKwargs (kw : Kwargs) : Except PyErr DIOConfig := do
  let d : DIOConfig := {}
  let strategy ← literal strategies d.strategy kw.strategy
  let nlmsMode ← literal nlmsModes d.nlmsMode kw.nlmsMode
  let ablation ← literal ablations d.ablation kw.ablation
  let admissionMode ← literal admissionModes d.admissionMode kw.admissionMode
  let host ← text d.host kw.host
  let apiKey ← optionalText kw.apiKey
  let tokenizerName ← optionalText kw.tokenizer
  return {
    strategy, nlmsMode, ablation, admissionMode, host, apiKey, tokenizerName
    sloMs := kw.sloMs.getD d.sloMs
    admissionOff := kw.admissionOff || d.admissionOff
    admissionPercentile := kw.admissionPercentile.getD d.admissionPercentile
    cacheBonusMs := kw.cacheBonusMs.getD d.cacheBonusMs
    affinityCacheSize := kw.affinityCacheSize.getD d.affinityCacheSize
    engineMetrics := kw.engineMetrics.getD d.engineMetrics
    learnerRobust := kw.learnerRobust.getD d.learnerRobust
    useTokenizer := kw.tokenizer.isSome || d.useTokenizer
    port := kw.port.getD d.port
    requestTimeoutS := kw.requestTimeoutS.getD d.requestTimeoutS
    bodySizeCapBytes := kw.bodySizeCapBytes.getD d.bodySizeCapBytes
    promptCharsCap := kw.promptCharsCap.getD d.promptCharsCap
    protectDebug := kw.protectDebug.getD d.protectDebug
    dataPlaneAuth := kw.dataPlaneAuth.getD d.dataPlaneAuth }

/-- The choices that are defaults are members of their types. -/
theorem defaults_chosen : ({} : DIOConfig).strategy ∈ strategies ∧ ({} : DIOConfig).nlmsMode ∈ nlmsModes ∧
    ({} : DIOConfig).ablation ∈ ablations ∧ ({} : DIOConfig).admissionMode ∈ admissionModes := by
  decide

/-! ## `load_config_file` -/

/-- What `load_config_file` returns. -/
structure Loaded where
  topology : Topology
  config : DIOConfig

/-- `_load_yaml` on a parsed file: what is empty in YAML is an empty mapping. -/
def loadYaml (isJson : Bool) (parsed : Json) : Json := if isJson then parsed else parsed.orElse (.obj [])

/-- `load_config_file`, from what the parser returns. -/
def loadConfigFile (L : Loader) (isJson : Bool) (parsed : Json) : Except LoadExn Loaded := do
  let data := loadYaml isJson parsed
  let topology ← loadTopology L data
  let kw ← (configKwargs L.U data).mapError .raised
  let config ← (DIOConfig.ofKwargs kw).mapError .raised
  return ⟨topology, config⟩

/-! ## Sequences and their exceptions -/

section Spares

variable {α β ε ε' : Type}

/-- A computation raises none of the `bad` exceptions. -/
def Spares (bad : ε → Prop) (x : Except ε α) : Prop := ∀ e, x = .error e → ¬bad e

variable {bad : ε → Prop}

theorem spares_ok (a : α) : Spares bad (.ok a : Except ε α) := by rintro e ⟨⟩

theorem spares_error {e : ε} : Spares bad (.error e : Except ε α) ↔ ¬bad e := by
  constructor
  · intro h; exact h e rfl
  · rintro h _ ⟨⟩; exact h

/-- A sequence spares what its first part spares, and what the rest does when it is reached. -/
theorem spares_bind {x : Except ε α} {f : α → Except ε β} :
    Spares bad (x >>= f) ↔ Spares bad x ∧ ∀ a, x = .ok a → Spares bad (f a) := by
  cases x with
  | error e =>
    constructor
    · intro h; exact ⟨fun e' he => h e' (by cases he; rfl), by rintro a ⟨⟩⟩
    · rintro ⟨h, -⟩ e' he; exact h e' (by cases he; rfl)
  | ok a =>
    constructor
    · intro h; exact ⟨spares_ok a, by rintro _ ⟨⟩; exact h⟩
    · rintro ⟨-, h⟩; exact h a rfl

/-- A sequence whose first part spares under `P`, and returns when `R` holds too. -/
theorem spares_bind_of {x : Except ε α} {f : α → Except ε β} {P R Q : Prop} (hs : Spares bad x ↔ P)
    (hr : Returns x ↔ P ∧ R) (hf : ∀ a, x = .ok a → (Spares bad (f a) ↔ Q)) : Spares bad (x >>= f) ↔ P ∧ (R → Q) := by
  rw [spares_bind, hs]
  constructor
  · rintro ⟨hP, h⟩
    refine ⟨hP, fun hR => ?_⟩
    obtain ⟨a, ha⟩ := hr.2 ⟨hP, hR⟩
    exact (hf a ha).1 (h a ha)
  · rintro ⟨hP, h⟩
    refine ⟨hP, fun a ha => (hf a ha).2 (h (hr.1 ⟨a, ha⟩).2)⟩

theorem returns_bind_iff {x : Except ε α} {f : α → Except ε β} :
    Returns (x >>= f) ↔ ∃ a, x = .ok a ∧ Returns (f a) := by
  constructor
  · rintro ⟨b, h⟩
    obtain ⟨a, ha, hb⟩ := bind_eq_ok.1 h
    exact ⟨a, ha, b, hb⟩
  · rintro ⟨a, ha, b, hb⟩
    exact ⟨b, bind_eq_ok.2 ⟨a, ha, hb⟩⟩

/-- Where every exception is turned into a bad one, to spare them is to return. -/
theorem spares_mapError {x : Except ε' α} {g : ε' → ε} (hg : ∀ e, bad (g e)) : Spares bad (x.mapError g) ↔
    Returns x := by
  cases x with
  | ok a => exact iff_of_true (spares_ok a) (returns_ok a)
  | error e => exact iff_of_false (fun h => h (g e) rfl (hg e)) (not_returns_error e)

end Spares

/-- An exception of an entry that is no ValueError. -/
def ParseExn.IsRaised : ParseExn → Prop
  | .raised _ => True
  | .valueError _ => False

/-- An exception that is no ConfigError. -/
def LoadExn.IsRaised : LoadExn → Prop
  | .raised _ => True
  | .configError _ => False

/-! ## The shape of an entry -/

/-- `j.get(k)` of a mapping. -/
def memberOf (kvs : Obj) (k : String) : Json := (Dict.get? kvs k).getD .null

def isText : Json → Bool
  | .str _ => true
  | _ => false

/-- `float(j)` reads `j` or raises a ValueError: a number that is not too large, a flag or a text. -/
def isFloatable : Json → Bool
  | .int n => |(n : ℚ)| < floatOverflow
  | .bool _ | .float _ | .str _ => true
  | _ => false

/-- A text given for a number is one. -/
def reads (U : Unicode) : Json → Bool
  | .str s => (floatOfStr U s).toBool
  | _ => true

/-- `models[0] if models else None` finds something or is not reached. -/
def isIndexable : Json → Bool
  | .obj kvs => kvs.isEmpty
  | .bool b => !b
  | .int n => n = 0
  | .float x => x = .fin 0
  | _ => true

/-- `",".join(models)` is given texts; a mapping is joined by its keys. -/
def isJoinable : Json → Bool
  | .null | .str _ | .obj _ => true
  | .arr xs => xs.all isText
  | _ => false

section Entry

variable (L : Loader)

/-- The members of an entry, as they are looked up. -/
def idOf (i : Nat) (kvs : Obj) : Json :=
  ((memberOf kvs "id").orElse (memberOf kvs "name")).orElse (.str s!"backend-{i}")

def urlOf (kvs : Obj) : Json :=
  ((memberOf kvs "url").orElse (memberOf kvs "base_url")).orElse ((Dict.get? kvs "address").getD (.str ""))

def engineOf (kvs : Obj) : Json := ((memberOf kvs "engine").orElse (memberOf kvs "type")).orElse (.str "openai")

def modelsOf (kvs : Obj) : Json := (memberOf kvs "models").orElse (memberOf kvs "model")

def vramOf (key : String) (kvs : Obj) : Json := (memberOf kvs key).orElse ((Dict.get? kvs "vram").getD (.int 24000))

/-- An entry without a ValueError: a URL that is accepted, and texts for numbers that are numbers. -/
def EntryClean (i : Nat) (raw : Json) : Prop :=
  ∃ kvs, raw = .obj kvs ∧ reads L.U (vramOf "total_vram_mb" kvs) = true ∧ reads L.U (vramOf "free_vram_mb" kvs) = true ∧
    ∃ url, urlOf kvs = .str url ∧ url ≠ "" ∧ Returns (validateBackendUrl L (rstripSlash url) (idOf i kvs))

/-- An entry of the right shape: a mapping with texts, numbers and lists of texts where they are read, as
far as no ValueError comes first. -/
def EntryShaped (raw : Json) : Prop :=
  ∃ kvs, raw = .obj kvs ∧ ((urlOf kvs).truthy = true →
    isText (engineOf kvs) = true ∧ isText (urlOf kvs) = true ∧ isIndexable (modelsOf kvs) = true ∧
      isFloatable (vramOf "total_vram_mb" kvs) = true ∧ (reads L.U (vramOf "total_vram_mb" kvs) = true →
        isFloatable (vramOf "free_vram_mb" kvs) = true ∧ (reads L.U (vramOf "free_vram_mb" kvs) = true →
          isJoinable (modelsOf kvs) = true)))

def modelList : Json → Json
  | .str name => .arr [.str name]
  | .null => .arr []
  | models => models

theorem rawModels_obj (kvs : Obj) : rawModels (.obj kvs) = .ok (modelList (modelsOf kvs)) := by
  unfold rawModels
  rw [Json.get_obj, Json.get_obj, ok_bind, ok_bind]
  show (match modelsOf kvs with
    | .str name => .ok (.arr [.str name])
    | .null => .ok (.arr [])
    | models => .ok models : Except PyErr Json) = _
  cases modelsOf kvs <;> rfl

theorem returns_primary (j : Json) :
    Returns (if (modelList j).truthy then some <$> (modelList j).head else .ok none : Except PyErr (Option Json)) ↔
      isIndexable j = true := by
  cases j with
  | null | str s => exact iff_of_true ⟨_, rfl⟩ rfl
  | arr xs =>
    refine iff_of_true ?_ rfl
    cases xs with
    | nil => exact ⟨_, rfl⟩
    | cons x xs => exact ⟨_, rfl⟩
  | obj kvs =>
    cases kvs with
    | nil => exact iff_of_true ⟨_, rfl⟩ rfl
    | cons p kvs => exact iff_of_false (fun h => not_returns_error _ h) Bool.false_ne_true
  | bool b =>
    cases b with
    | false => exact iff_of_true ⟨_, rfl⟩ rfl
    | true => exact iff_of_false (fun h => not_returns_error _ h) Bool.false_ne_true
  | int n =>
    by_cases hn : n = 0
    · subst hn; exact iff_of_true ⟨_, rfl⟩ rfl
    · have ht : (modelList (.int n)).truthy = true := by simpa [modelList, Json.truthy] using hn
      rw [if_pos ht]
      exact iff_of_false (fun h => not_returns_error _ h) (by simpa [isIndexable] using hn)
  | float x =>
    by_cases hx : x = .fin 0
    · subst hx; exact iff_of_true ⟨_, rfl⟩ rfl
    · have ht : (modelList (.float x)).truthy = true := by simpa [modelList, Json.truthy] using hx
      rw [if_pos ht]
      exact iff_of_false (fun h => not_returns_error _ h) (by simpa [isIndexable] using hx)

theorem returns_joinable : ∀ js : List Json, Returns (joinable js) ↔ js.all isText = true
  | [] => iff_of_true ⟨_, rfl⟩ rfl
  | .str s :: js => by
    show Returns (joinable js >>= fun names => pure (s :: names)) ↔ _
    rw [returns_map, returns_joinable js]
    rfl
  | .null :: _ | .bool _ :: _ | .int _ :: _ | .float _ :: _ | .arr _ :: _ | .obj _ :: _ =>
    iff_of_false (fun h => not_returns_error _ h) Bool.false_ne_true

theorem returns_modelNames (kvs : Obj) : Returns (modelNames (.obj kvs)) ↔ isJoinable (modelsOf kvs) = true := by
  unfold modelNames
  rw [rawModels_obj, ok_bind]
  cases modelsOf kvs with
  | null => exact iff_of_true ⟨_, rfl⟩ rfl
  | str s => exact iff_of_true ⟨_, rfl⟩ rfl
  | arr xs => exact returns_joinable xs
  | obj ms =>
    have hkeys : (ms.map fun p => Json.str p.1).all isText = true := by
      rw [List.all_map]; exact List.all_eq_true.2 fun _ _ => rfl
    exact iff_of_true ((returns_joinable _).2 hkeys) rfl
  | bool _ | int _ | float _ => exact iff_of_false (fun h => not_returns_error _ h) Bool.false_ne_true

/-- `float` of a text returns or raises a ValueError. -/
theorem floatOfStr_cases (U : Unicode) (s : String) : Returns (floatOfStr U s) ∨
    floatOfStr U s = .error .valueError := by
  have hend : ∀ (p : Prop) [Decidable p] (x : PyFloat),
    Returns (if p then .error .valueError else .ok x : Except PyErr PyFloat) ∨
      (if p then .error .valueError else .ok x : Except PyErr PyFloat) = .error .valueError := by
    intro p _ x
    split
    · exact .inr rfl
    · exact .inl ⟨x, rfl⟩
  unfold floatOfStr
  dsimp only
  split
  · exact .inl ⟨_, rfl⟩
  · split
    · exact .inl ⟨_, rfl⟩
    · exact hend _ _

theorem returns_toFloat (U : Unicode) (j : Json) : Returns (j.toFloat U) ↔ isFloatable j = true ∧ reads U j = true := by
  cases j with
  | bool b => exact iff_of_true ⟨_, rfl⟩ ⟨rfl, rfl⟩
  | float x => exact iff_of_true ⟨_, rfl⟩ ⟨rfl, rfl⟩
  | null | arr xs | obj kvs => exact iff_of_false (fun h => not_returns_error _ h) fun h => Bool.false_ne_true h.1
  | int n =>
    show Returns (if |(n : ℚ)| < floatOverflow then .ok (.fin n) else .error .overflowError : Except PyErr PyFloat) ↔
      decide (|(n : ℚ)| < floatOverflow) = true ∧ true = true
    by_cases hn : |(n : ℚ)| < floatOverflow
    · rw [if_pos hn]; exact iff_of_true ⟨_, rfl⟩ ⟨decide_eq_true hn, rfl⟩
    · rw [if_neg hn]
      exact iff_of_false (fun h => not_returns_error _ h) fun h => hn (of_decide_eq_true h.1)
  | str s =>
    show Returns (floatOfStr U s) ↔ true = true ∧ (floatOfStr U s).toBool = true
    cases h : floatOfStr U s with
    | ok x => exact iff_of_true ⟨_, rfl⟩ ⟨rfl, rfl⟩
    | error e => exact iff_of_false (fun h => not_returns_error _ h) fun h => Bool.false_ne_true h.2

/-- `float` of what is floatable raises no other exception than a ValueError. -/
theorem toFloat_error_iff (U : Unicode) (j : Json) :
    (∀ e, j.toFloat U = .error e → e = .valueError) ↔ isFloatable j = true := by
  cases j with
  | bool b => exact iff_of_true (by rintro e ⟨⟩) rfl
  | float x => exact iff_of_true (by rintro e ⟨⟩) rfl
  | null | arr xs | obj kvs =>
    refine iff_of_false (fun h => ?_) Bool.false_ne_true
    cases h _ rfl
  | int n =>
    by_cases hn : |(n : ℚ)| < floatOverflow
    · obtain ⟨x, hx⟩ := (returns_toFloat U (.int n)).2 ⟨decide_eq_true hn, rfl⟩
      exact iff_of_true (by rintro e he; rw [hx] at he; cases he) (decide_eq_true hn)
    · refine iff_of_false (fun h => ?_) fun h => hn (of_decide_eq_true h)
      cases h .overflowError (if_neg hn)
  | str s =>
    refine iff_of_true (fun e he => ?_) rfl
    rcases floatOfStr_cases U s with ⟨x, hx⟩ | hx
    · rw [show Json.toFloat U (.str s) = floatOfStr U s from rfl, hx] at he; cases he
    · rw [show Json.toFloat U (.str s) = floatOfStr U s from rfl, hx] at he; cases he; rfl

theorem spares_asFloat (j : Json) : Spares ParseExn.IsRaised (asFloat L j) ↔ isFloatable j = true := by
  rw [← toFloat_error_iff L.U]
  unfold asFloat
  cases h : j.toFloat L.U with
  | ok x => exact iff_of_true (spares_ok x) (by rintro e ⟨⟩)
  | error e =>
    by_cases he : e = .valueError
    · subst he
      exact iff_of_true (spares_error.2 id) (by rintro e ⟨⟩; rfl)
    · refine iff_of_false (fun hs => ?_) fun hv => he (hv e rfl)
      cases e with
      | valueError => exact he rfl
      | attributeError | typeError | keyError | overflowError => exact hs _ rfl trivial

theorem returns_asFloat (j : Json) : Returns (asFloat L j) ↔ isFloatable j = true ∧ reads L.U j = true := by
  rw [← returns_toFloat]
  unfold asFloat
  cases j.toFloat L.U with
  | ok x => exact iff_of_true (returns_ok x) (returns_ok x)
  | error e =>
    cases e with
    | valueError | attributeError | typeError | keyError | overflowError =>
      exact iff_of_false (fun h => not_returns_error _ h) fun h => not_returns_error _ h

theorem returns_member {α : Type} (x : Except PyErr α) : Returns (member x) ↔ Returns x := by
  cases x with
  | ok a => exact iff_of_true (returns_ok a) (returns_ok a)
  | error e => exact iff_of_false (not_returns_error _) (not_returns_error e)

theorem spares_member {α : Type} (x : Except PyErr α) : Spares ParseExn.IsRaised (member x) ↔ Returns x :=
  spares_mapError fun _ => trivial

/-- A look-up that fails ends the entry with its exception. -/
theorem spares_member_bind {α β : Type} {x : Except PyErr α} {f : α → Except ParseExn β} {P Q : Prop}
    (hx : Returns x ↔ P)
    (hf : ∀ a, Spares ParseExn.IsRaised (f a) ↔ Q) : Spares ParseExn.IsRaised (member x >>= f) ↔ P ∧ Q := by
  rw [spares_bind_of (R := True) ((spares_member x).trans hx) (by rw [returns_member, hx, and_true]) fun a _ => hf a,
    true_implies]

theorem returns_lowered (j : Json) : Returns (lowered L j) ↔ isText j = true := by
  cases j with
  | str s => exact iff_of_true ⟨_, rfl⟩ rfl
  | null | bool _ | int _ | float _ | arr _ | obj _ => exact iff_of_false (not_returns_error _) Bool.false_ne_true

/-- A URL is refused by a ValueError. -/
theorem spares_validate (url : String) (bid : Json) : Spares ParseExn.IsRaised (validateBackendUrl L url bid) := by
  unfold validateBackendUrl
  dsimp only
  split
  · exact spares_error.2 id
  · split
    · exact spares_error.2 id
    · split
      · exact spares_error.2 id
      · split
        · exact spares_error.2 id
        · split
          · exact spares_error.2 id
          · split
            · exact spares_error.2 id
            · exact spares_ok _

/-- An entry, with its members looked up. -/
theorem parseBackend_obj (i : Nat) (kvs : Obj) : parseBackend L (.obj kvs) i = (do
    requireUrl L (idOf i kvs) (urlOf kvs)
    let engine ← member (lowered L (engineOf kvs))
    let baseUrl ← member (rstripped (urlOf kvs))
    let model ← member (if (modelList (modelsOf kvs)).truthy then some <$> (modelList (modelsOf kvs)).head else .ok none)
    let totalVramMb ← asFloat L (vramOf "total_vram_mb" kvs)
    let freeVramMb ← asFloat L (vramOf "free_vram_mb" kvs)
    let _ ← member (modelNames (.obj kvs))
    let baseUrl ← validateBackendUrl L baseUrl (idOf i kvs)
    return {
      id := asText L (idOf i kvs)
      baseUrl := baseUrl
      tier := asText L ((Dict.get? kvs "tier").getD (.str "small"))
      model := model.map (asText L)
      totalVramMb := totalVramMb
      freeVramMb := freeVramMb
      apiStyle := styleOf engine
      apiKey := if (memberOf kvs "api_key").truthy then some (str L.U (memberOf kvs "api_key")) else none
      healthPath := asText L ((Dict.get? kvs "health_path").getD (.str "/health"))
      metricsPath := asText L ((Dict.get? kvs "metrics_path").getD (.str "/metrics")) }) := by
  unfold parseBackend
  rw [rawModels_obj]
  rfl

theorem spares_requireUrl (bid url : Json) : Spares ParseExn.IsRaised (requireUrl L bid url) := by
  unfold requireUrl
  split
  · exact spares_ok _
  · exact spares_error.2 id

theorem returns_requireUrl (bid url : Json) : Returns (requireUrl L bid url) ↔ True ∧ url.truthy = true := by
  unfold requireUrl
  cases url.truthy with
  | true => exact iff_of_true ⟨_, rfl⟩ ⟨trivial, rfl⟩
  | false => exact iff_of_false (fun h => not_returns_error _ h) fun h => Bool.false_ne_true h.2

theorem returns_rstripped (j : Json) : Returns (rstripped j) ↔ isText j = true := by
  cases j with
  | str s => exact iff_of_true ⟨_, rfl⟩ rfl
  | null | bool _ | int _ | float _ | arr _ | obj _ => exact iff_of_false (not_returns_error _) Bool.false_ne_true

/-- `_parse_backend` raises a ValueError if anything exactly on entries of the right shape. -/
theorem spares_parseBackend (i : Nat) (raw : Json) : Spares ParseExn.IsRaised (parseBackend L raw i) ↔
    EntryShaped L raw := by
  cases raw with
  | obj kvs =>
    rw [parseBackend_obj]
    have hshaped : EntryShaped L (.obj kvs) ↔ ((urlOf kvs).truthy = true →
        isText (engineOf kvs) = true ∧ isText (urlOf kvs) = true ∧ isIndexable (modelsOf kvs) = true ∧
          isFloatable (vramOf "total_vram_mb" kvs) = true ∧ (reads L.U (vramOf "total_vram_mb" kvs) = true →
            isFloatable (vramOf "free_vram_mb" kvs) = true ∧ (reads L.U (vramOf "free_vram_mb" kvs) = true →
              isJoinable (modelsOf kvs) = true))) := by
      constructor
      · rintro ⟨_, ⟨⟩, h⟩; exact h
      · intro h; exact ⟨kvs, rfl, h⟩
    rw [hshaped]
    refine (spares_bind_of (iff_true_intro (spares_requireUrl L _ _)) (returns_requireUrl L _ _) fun _ _ =>
      spares_member_bind (returns_lowered L (engineOf kvs)) fun _ =>
      spares_member_bind (returns_rstripped (urlOf kvs)) fun _ =>
      spares_member_bind (returns_primary (modelsOf kvs)) fun _ =>
      spares_bind_of (spares_asFloat L (vramOf "total_vram_mb" kvs)) (returns_asFloat L _) fun _ _ =>
      spares_bind_of (spares_asFloat L (vramOf "free_vram_mb" kvs)) (returns_asFloat L _) fun _ _ =>
      spares_member_bind (returns_modelNames kvs) fun _ =>
      iff_true_intro (spares_bind.2 ⟨spares_validate L _ _, fun _ _ => spares_ok _⟩)).trans ?_
    rw [true_and]
    simp only [and_true]
  | null | bool _ | int _ | float _ | str _ | arr _ =>
    refine iff_of_false (fun h => h _ rfl trivial) ?_
    rintro ⟨_, ⟨⟩, -⟩

theorem isText_iff {j : Json} : isText j = true ↔ ∃ s, j = .str s := by
  cases j with
  | str s => exact iff_of_true rfl ⟨s, rfl⟩
  | null | bool _ | int _ | float _ | arr _ | obj _ => exact iff_of_false Bool.false_ne_true (by rintro ⟨_, ⟨⟩⟩)

/-- The accesses of an entry whose URL is a text. -/
theorem returns_parseBackend_url (i : Nat) {kvs : Obj} {url : String} (hurl : urlOf kvs = .str url) :
    Returns (parseBackend L (.obj kvs) i) ↔ (True ∧ (urlOf kvs).truthy = true) ∧ isText (engineOf kvs) = true ∧
      isIndexable (modelsOf kvs) = true ∧
      (isFloatable (vramOf "total_vram_mb" kvs) = true ∧ reads L.U (vramOf "total_vram_mb" kvs) = true) ∧
      (isFloatable (vramOf "free_vram_mb" kvs) = true ∧ reads L.U (vramOf "free_vram_mb" kvs) = true) ∧
      isJoinable (modelsOf kvs) = true ∧ Returns (validateBackendUrl L (rstripSlash url) (idOf i kvs)) := by
  have hstrip : member (rstripped (urlOf kvs)) = .ok (rstripSlash url) := by rw [hurl]; rfl
  rw [parseBackend_obj, hstrip]
  simp only [ok_bind]
  exact returns_bind (returns_requireUrl L _ _) fun _ =>
    returns_bind ((returns_member _).trans (returns_lowered L (engineOf kvs))) fun _ =>
    returns_bind ((returns_member _).trans (returns_primary (modelsOf kvs))) fun _ =>
    returns_bind (returns_asFloat L (vramOf "total_vram_mb" kvs)) fun _ =>
    returns_bind (returns_asFloat L (vramOf "free_vram_mb" kvs)) fun _ =>
    returns_bind ((returns_member _).trans (returns_modelNames kvs)) fun _ => returns_map _

/-- An entry of the right shape becomes a backend exactly when it is clean. -/
theorem returns_parseBackend {i : Nat} {raw : Json} (h : EntryShaped L raw) :
    Returns (parseBackend L raw i) ↔ EntryClean L i raw := by
  obtain ⟨kvs, rfl, hshape⟩ := h
  by_cases hurl : (urlOf kvs).truthy = true
  · obtain ⟨hengine, htext, hindex, htotal, hrest⟩ := hshape hurl
    obtain ⟨url, hu⟩ := isText_iff.1 htext
    rw [returns_parseBackend_url L i hu]
    have hne : url ≠ "" := by
      rw [hu] at hurl
      simpa [Json.truthy] using hurl
    constructor
    · rintro ⟨-, -, -, ⟨-, htotal'⟩, ⟨-, hfree'⟩, -, hvalid⟩
      exact ⟨kvs, rfl, htotal', hfree', url, hu, hne, hvalid⟩
    · rintro ⟨_, ⟨⟩, htotal', hfree', url', hu', -, hvalid⟩
      rw [hu] at hu'
      cases hu'
      obtain ⟨hfree, hrest⟩ := hrest htotal'
      exact ⟨⟨trivial, hurl⟩, hengine, hindex, ⟨htotal, htotal'⟩, ⟨hfree, hfree'⟩, hrest hfree', hvalid⟩
  · refine iff_of_false ?_ ?_
    · rw [parseBackend_obj]
      rintro ⟨b, hb⟩
      obtain ⟨u, hu, -⟩ := bind_eq_ok.1 hb
      exact hurl ((returns_requireUrl L _ _).1 ⟨u, hu⟩).2
    · rintro ⟨_, ⟨⟩, -, -, url, hu, hne, -⟩
      rw [hu] at hurl
      exact hurl (by simpa [Json.truthy] using hne)

/-! ## The entries -/

/-- Every entry is of the right shape, up to the first that is not clean. -/
def EntriesShaped : Nat → List Json → Prop
  | _, [] => True
  | i, raw :: raws => EntryShaped L (entryAt i raw) ∧ (EntryClean L i (entryAt i raw) → EntriesShaped (i + 1) raws)

def EntriesClean : Nat → List Json → Prop
  | _, [] => True
  | i, raw :: raws => EntryClean L i (entryAt i raw) ∧ EntriesClean (i + 1) raws

/-- Binding the models of an entry that is a backend raises nothing. -/
theorem spares_addEntry (top : Topology) (i : Nat) (raw : Json) :
    Spares LoadExn.IsRaised (addEntry L top i raw) ↔ EntryShaped L (entryAt i raw) := by
  rw [← spares_parseBackend L i]
  unfold addEntry
  cases h : parseBackend L (entryAt i raw) i with
  | error e =>
    cases e with
    | valueError message => exact iff_of_true (spares_error.2 id) (spares_error.2 id)
    | raised e => exact iff_of_false (fun h => h _ rfl trivial) fun h => h _ rfl trivial
  | ok b =>
    refine iff_of_true ?_ (spares_ok b)
    obtain ⟨names, hnames, -⟩ := parseBackend_model L h
    show Spares _ ((modelNames (entryAt i raw)).mapError LoadExn.raised >>= _)
    rw [hnames]
    exact spares_ok _

theorem returns_addEntry (top : Topology) (i : Nat) (raw : Json) :
    Returns (addEntry L top i raw) ↔ Returns (parseBackend L (entryAt i raw) i) := by
  unfold addEntry
  cases h : parseBackend L (entryAt i raw) i with
  | error e =>
    cases e with
    | valueError message | raised e => exact iff_of_false (not_returns_error _) (not_returns_error _)
  | ok b =>
    refine iff_of_true ?_ ⟨b, rfl⟩
    obtain ⟨names, hnames, -⟩ := parseBackend_model L h
    show Returns ((modelNames (entryAt i raw)).mapError LoadExn.raised >>= _)
    rw [hnames]
    exact ⟨_, rfl⟩

theorem spares_addEntries : ∀ (raws : List Json) (i : Nat) (top : Topology),
    Spares LoadExn.IsRaised (addEntries L i raws top) ↔ EntriesShaped L i raws
  | [], i, top => iff_of_true (spares_ok top) trivial
  | raw :: raws, i, top => by
    show Spares _ (addEntry L top i raw >>= addEntries L (i + 1) raws) ↔ _
    rw [spares_bind, spares_addEntry, EntriesShaped]
    refine and_congr_right fun hshape => ?_
    rw [← returns_parseBackend L hshape, ← returns_addEntry L top]
    constructor
    · rintro h ⟨top', htop⟩
      exact (spares_addEntries raws (i + 1) top').1 (h top' htop)
    · intro h top' htop
      exact (spares_addEntries raws (i + 1) top').2 (h ⟨top', htop⟩)

theorem returns_addEntries : ∀ {raws : List Json} {i : Nat}, EntriesShaped L i raws → ∀ top : Topology,
    Returns (addEntries L i raws top) ↔ EntriesClean L i raws
  | [], i, _, top => iff_of_true ⟨top, rfl⟩ trivial
  | raw :: raws, i, h, top => by
    obtain ⟨hshape, hrest⟩ := h
    show Returns (addEntry L top i raw >>= addEntries L (i + 1) raws) ↔ _
    rw [returns_bind_iff, EntriesClean, ← returns_parseBackend L hshape, ← returns_addEntry L top]
    constructor
    · rintro ⟨top', htop, h⟩
      have hclean := (returns_parseBackend L hshape).1 ((returns_addEntry L top i raw).1 ⟨top', htop⟩)
      exact ⟨⟨top', htop⟩, (returns_addEntries (hrest hclean) top').1 h⟩
    · rintro ⟨⟨top', htop⟩, h⟩
      have hclean := (returns_parseBackend L hshape).1 ((returns_addEntry L top i raw).1 ⟨top', htop⟩)
      exact ⟨top', htop, (returns_addEntries (hrest hclean) top').2 h⟩

def backendsOf (data : Obj) : Json := ((memberOf data "backends").orElse (memberOf data "backend")).orElse (.arr [])

/-- The entries of a list, or of a mapping of ids to URLs. -/
def entriesOf : Json → Option (List Json)
  | .arr raws => some raws
  | .obj urls => some (urls.map fun p => .obj [("id", .str p.1), ("url", p.2)])
  | _ => none

def TopologyShaped (data : Json) : Prop :=
  ∀ members raws, data = .obj members → entriesOf (backendsOf members) = some raws → EntriesShaped L 0 raws

def TopologyClean (data : Json) : Prop :=
  ∃ members raws, data = .obj members ∧ entriesOf (backendsOf members) = some raws ∧ EntriesClean L 0 raws

theorem rawBackends_some {members : Obj} {raws : List Json} (h : entriesOf (backendsOf members) = some raws) :
    rawBackends L members = .ok raws := by
  unfold rawBackends
  show (match backendsOf members with
    | .arr raws => .ok raws
    | .obj urls => .ok (urls.map fun p => .obj [("id", .str p.1), ("url", p.2)])
    | raw => .error (.configError _) : Except LoadExn (List Json)) = _
  cases hb : backendsOf members with
  | arr xs => rw [hb] at h; cases h; rfl
  | obj kvs => rw [hb] at h; cases h; rfl
  | null | bool _ | int _ | float _ | str _ => rw [hb] at h; cases h

theorem rawBackends_none {members : Obj} (h : entriesOf (backendsOf members) = none) :
    ∃ message, rawBackends L members = .error (.configError message) := by
  unfold rawBackends
  show ∃ message, (match backendsOf members with
    | .arr raws => .ok raws
    | .obj urls => .ok (urls.map fun p => .obj [("id", .str p.1), ("url", p.2)])
    | raw => .error (.configError (L.path ++ ": 'backends' must be a list of backend entries, got " ++
      typeName raw ++ ".")) :
      Except LoadExn (List Json)) = _
  cases hb : backendsOf members with
  | arr xs => rw [hb] at h; cases h
  | obj kvs => rw [hb] at h; cases h
  | null | bool _ | int _ | float _ | str _ => exact ⟨_, rfl⟩

theorem spares_loadTopology (data : Json) : Spares LoadExn.IsRaised (loadTopology L data) ↔ TopologyShaped L data := by
  cases data with
  | obj members =>
    show Spares _ (rawBackends L members >>= fun raws => addEntries L 0 raws .empty) ↔ _
    cases h : entriesOf (backendsOf members) with
    | some raws =>
      rw [rawBackends_some L h, ok_bind, spares_addEntries]
      constructor
      · rintro hs _ _ ⟨⟩ h'; rw [h] at h'; cases h'; exact hs
      · intro hs; exact hs _ _ rfl h
    | none =>
      obtain ⟨message, hraw⟩ := rawBackends_none L h
      rw [hraw]
      refine iff_of_true (spares_error.2 id) ?_
      rintro _ _ ⟨⟩ h'; rw [h] at h'; cases h'
  | null | bool _ | int _ | float _ | str _ | arr _ =>
    exact iff_of_true (spares_error.2 id) (by rintro _ _ ⟨⟩)

theorem returns_loadTopology {data : Json} (hshape : TopologyShaped L data) :
    Returns (loadTopology L data) ↔ TopologyClean L data := by
  cases data with
  | obj members =>
    show Returns (rawBackends L members >>= fun raws => addEntries L 0 raws .empty) ↔ _
    cases h : entriesOf (backendsOf members) with
    | some raws =>
      rw [rawBackends_some L h, ok_bind, returns_addEntries L (hshape _ _ rfl h)]
      constructor
      · intro hc; exact ⟨_, _, rfl, h, hc⟩
      · rintro ⟨_, _, ⟨⟩, h', hc⟩; rw [h] at h'; cases h'; exact hc
    | none =>
      obtain ⟨message, hraw⟩ := rawBackends_none L h
      rw [hraw]
      refine iff_of_false (fun hr => not_returns_error _ hr) ?_
      rintro ⟨_, _, ⟨⟩, h', -⟩; rw [h] at h'; cases h'
  | null | bool _ | int _ | float _ | str _ | arr _ =>
    exact iff_of_false (not_returns_error _) (by rintro ⟨_, _, ⟨⟩, -⟩)

end Entry

/-! ## The settings -/

/-- A section as it is looked up. -/
def sectionIn (data : Obj) (name : String) : Json := (memberOf data name).orElse (.obj [])

/-- A setting; what is no mapping has none. -/
def setting (data : Obj) (key : String × String) : Json :=
  match sectionIn data key.1 with
  | .obj kvs => memberOf kvs key.2
  | _ => .null

def isMapping : Json → Bool
  | .obj _ => true
  | _ => false

/-- The budget of the admission section, else the scheduler's. -/
def sloOf (data : Obj) : Json :=
  if (setting data ("admission", "slo_ms")).isNull then setting data ("scheduler", "slo_ms")
  else setting data ("admission", "slo_ms")

/-- The settings are read: the sections are mappings, and what is given for a number is one. -/
structure SettingsRead (U : Unicode) (data : Obj) : Prop where
  sections : ∀ name ∈ ["scheduler", "admission", "server", "security"], isMapping (sectionIn data name) = true
  floats : ∀ j ∈ [setting data ("scheduler", "cache_bonus_ms"), sloOf data, setting data ("admission", "percentile"),
    setting data ("server", "timeout")], j.isNull = true ∨ isFloatable j = true ∧ reads U j = true
  ints : ∀ j ∈ [setting data ("scheduler", "affinity_cache_size"), setting data ("server", "port"),
    setting data ("server", "body_size_cap_bytes"), setting data ("server", "prompt_chars_cap")],
    j.isNull = true ∨ Returns (asInt U j)

/-- The settings are accepted: a choice is one of its field's members, a text a text. -/
structure SettingsAccepted (data : Obj) : Prop where
  choices : ∀ c ∈ [(setting data ("scheduler", "strategy"), strategies),
    (setting data ("scheduler", "nlms_mode"), nlmsModes),
    (setting data ("scheduler", "ablation"), ablations), (setting data ("admission", "mode"), admissionModes)],
    c.1.truthy = true → ∃ s ∈ c.2, c.1 = .str s
  texts : ∀ j ∈ [setting data ("server", "host"), setting data ("security", "api_key"),
    setting data ("scheduler", "tokenizer")],
    j.truthy = true → isText j = true

def chosenOf (j : Json) : Option Json := if j.truthy then some j else none

theorem chosen_obj (kvs : Obj) (key : String) : chosen (.obj kvs) key = .ok (chosenOf (memberOf kvs key)) := rfl

theorem returns_given {α : Type} (convert : Json → Except PyErr α) (kvs : Obj) (key : String) :
    Returns (given convert (.obj kvs) key) ↔ (memberOf kvs key).isNull = true ∨
      Returns (convert (memberOf kvs key)) := by
  show Returns (if (memberOf kvs key).isNull = true then .ok none
    else convert (memberOf kvs key) >>= fun v => .ok (some v)) ↔ _
  split
  · rename_i h; exact iff_of_true (returns_ok none) (.inl h)
  · rename_i h
    refine (returns_map _).trans ?_
    simp [h]

theorem returns_chosen {sec : Json} {key : String} : Returns (chosen sec key) ↔ isMapping sec = true := by
  cases sec with
  | obj kvs => exact iff_of_true ⟨_, rfl⟩ rfl
  | null | bool _ | int _ | float _ | str _ | arr _ => exact iff_of_false (not_returns_error _) Bool.false_ne_true

theorem isMapping_iff {j : Json} : isMapping j = true ↔ ∃ kvs, j = .obj kvs := by
  cases j with
  | obj kvs => exact iff_of_true rfl ⟨kvs, rfl⟩
  | null | bool _ | int _ | float _ | str _ | arr _ => exact iff_of_false Bool.false_ne_true (by rintro ⟨_, ⟨⟩⟩)

theorem setting_of_section {data kvs : Obj} {name : String} (h : sectionIn data name = .obj kvs) (key : String) :
    setting data (name, key) = memberOf kvs key := by
  unfold setting; rw [h]

theorem returns_givenSlo (U : Unicode) (admission sched : Obj) : Returns (givenSlo U (.obj admission) (.obj sched)) ↔
    (if (memberOf admission "slo_ms").isNull then memberOf sched "slo_ms" else memberOf admission "slo_ms").isNull =
      true ∨
      Returns ((if (memberOf admission "slo_ms").isNull then memberOf sched "slo_ms"
        else memberOf admission "slo_ms").toFloat U) := by
  show Returns (if (memberOf admission "slo_ms").isNull = true then given (Json.toFloat U) (.obj sched) "slo_ms"
    else given (Json.toFloat U) (.obj admission) "slo_ms") ↔ _
  split
  · exact returns_given _ _ _
  · exact returns_given _ _ _

/-- A flag is always read. -/
theorem given_asBool (kvs : Obj) (key : String) : Returns (given asBool (.obj kvs) key) :=
  (returns_given asBool kvs key).2 (.inr ⟨_, rfl⟩)

/-- The settings that are checked by `DIOConfig`, as they are handed to it. -/
structure HandedOn (data : Obj) (kw : Kwargs) : Prop where
  strategy : kw.strategy = chosenOf (setting data ("scheduler", "strategy"))
  nlmsMode : kw.nlmsMode = chosenOf (setting data ("scheduler", "nlms_mode"))
  ablation : kw.ablation = chosenOf (setting data ("scheduler", "ablation"))
  admissionMode : kw.admissionMode = chosenOf (setting data ("admission", "mode"))
  host : kw.host = chosenOf (setting data ("server", "host"))
  apiKey : kw.apiKey = chosenOf (setting data ("security", "api_key"))
  tokenizer : kw.tokenizer = chosenOf (setting data ("scheduler", "tokenizer"))

theorem configKwargs_of_read {U : Unicode} {data : Obj} (h : SettingsRead U data) :
    ∃ kw, configKwargs U (.obj data) = .ok kw ∧ HandedOn data kw := by
  obtain ⟨hsections, hfloats, hints⟩ := h
  simp only [List.forall_mem_cons] at hsections hfloats hints
  simp only [isMapping_iff] at hsections
  obtain ⟨⟨sched, hsched⟩, ⟨admission, hadmission⟩, ⟨server, hserver⟩, ⟨security, hsecurity⟩, -⟩ := hsections
  simp only [sloOf, setting_of_section hsched, setting_of_section hadmission, setting_of_section hserver,
    ← returns_toFloat, ← returns_given] at hfloats hints
  obtain ⟨⟨bonus, hbonus⟩, hslo, ⟨percentile, hpercentile⟩, ⟨timeout, htimeout⟩, -⟩ := hfloats
  obtain ⟨⟨cacheSize, hcache⟩, ⟨port, hport⟩, ⟨body, hbody⟩, ⟨prompt, hprompt⟩, -⟩ := hints
  obtain ⟨robust, hrobust⟩ := given_asBool sched "learner_robust"
  obtain ⟨metrics, hmetrics⟩ := given_asBool sched "engine_metrics"
  obtain ⟨debug, hdebug⟩ := given_asBool security "protect_debug"
  obtain ⟨plane, hplane⟩ := given_asBool security "data_plane_auth"
  obtain ⟨slo, hslo⟩ := (returns_givenSlo U admission sched).2 hslo
  have hsection : ∀ name, sectionOf (.obj data) name = .ok (sectionIn data name) := fun _ => rfl
  have hget : ∀ (kvs : Obj) key, (Json.obj kvs).get key = .ok (memberOf kvs key) := fun _ _ => rfl
  have hkw : configKwargs U (.obj data) = .ok {
      strategy := chosenOf (memberOf sched "strategy")
      nlmsMode := chosenOf (memberOf sched "nlms_mode")
      ablation := chosenOf (memberOf sched "ablation")
      cacheBonusMs := bonus
      affinityCacheSize := cacheSize
      learnerRobust := robust
      admissionMode := chosenOf (memberOf admission "mode")
      sloMs := slo
      admissionPercentile := percentile
      admissionOff := ((memberOf admission "off").orElse (memberOf admission "disabled")).truthy
      engineMetrics := metrics
      host := chosenOf (memberOf server "host")
      port := port
      requestTimeoutS := timeout
      bodySizeCapBytes := body
      promptCharsCap := prompt
      apiKey := chosenOf (memberOf security "api_key")
      protectDebug := debug
      dataPlaneAuth := plane
      tokenizer := chosenOf (memberOf sched "tokenizer") } := by
    unfold configKwargs
    simp only [hsection, hsched, hadmission, hserver, hsecurity, ok_bind, chosen_obj, hget, hbonus, hcache, hrobust,
      hslo,
      hpercentile, hmetrics, hport, htimeout, hbody, hprompt, hdebug, hplane]
    rfl
  refine ⟨_, hkw, ?_⟩
  constructor
  · rw [setting_of_section hsched]
  · rw [setting_of_section hsched]
  · rw [setting_of_section hsched]
  · rw [setting_of_section hadmission]
  · rw [setting_of_section hserver]
  · rw [setting_of_section hsecurity]
  · rw [setting_of_section hsched]

/-- Settings that are handed on were read. -/
theorem read_of_configKwargs {U : Unicode} {data : Obj} {kw : Kwargs} (h : configKwargs U (.obj data) = .ok kw) :
    SettingsRead U data := by
  simp only [configKwargs, bind_eq_ok] at h
  obtain ⟨_, hsec₁, _, hsec₂, _, hsec₃, strategy, hstrategy, nlms, -, ablation, -, bonus, hbonus, cacheSize, hcache,
    robust, -, mode, hmode, slo, hslo, percentile, hpercentile, off, -, disabled, -, metrics, -, host, hhost, port,
      hport,
    timeout, htimeout, body, hbody, prompt, hprompt, _, hsec₄, apiKey, hkey, -⟩ := h
  obtain rfl := Except.ok.inj hsec₁
  obtain rfl := Except.ok.inj hsec₂
  obtain rfl := Except.ok.inj hsec₃
  obtain rfl := Except.ok.inj hsec₄
  have hsections : ∀ name ∈ ["scheduler", "admission", "server", "security"], isMapping (sectionIn data name) =
    true := by
    simp only [List.forall_mem_cons]
    exact ⟨returns_chosen.1 ⟨_, hstrategy⟩, returns_chosen.1 ⟨_, hmode⟩, returns_chosen.1 ⟨_, hhost⟩,
      returns_chosen.1 ⟨_, hkey⟩, List.forall_mem_nil _⟩
  obtain ⟨sched, hsched⟩ := isMapping_iff.1 (hsections "scheduler" (by decide))
  obtain ⟨admission, hadmission⟩ := isMapping_iff.1 (hsections "admission" (by decide))
  obtain ⟨server, hserver⟩ := isMapping_iff.1 (hsections "server" (by decide))
  have hgiven : ∀ {α : Type} {convert : Json → Except PyErr α} {name key : String} {kvs : Obj} {v : Option α},
      sectionIn data name = .obj kvs → given convert (sectionIn data name) key = .ok v →
      (setting data (name, key)).isNull = true ∨ Returns (convert (setting data (name, key))) := by
    intro α convert name key kvs v hname hv
    rw [hname] at hv
    rw [setting_of_section hname]
    exact (returns_given _ _ _).1 ⟨v, hv⟩
  refine ⟨hsections, ?_, ?_⟩
  · simp only [List.forall_mem_cons, ← returns_toFloat]
    refine ⟨hgiven hsched hbonus, ?_, hgiven hadmission hpercentile, hgiven hserver htimeout, List.forall_mem_nil _⟩
    have hslo' := (returns_givenSlo U admission sched).1 ⟨slo, by rw [← hadmission, ← hsched]; exact hslo⟩
    unfold sloOf
    rw [setting_of_section hadmission, setting_of_section hsched]
    exact hslo'
  · simp only [List.forall_mem_cons]
    exact ⟨hgiven hsched hcache, hgiven hserver hport, hgiven hserver hbody, hgiven hserver hprompt,
      List.forall_mem_nil _⟩

/-! ### What is accepted -/

/-- A field that takes its default for a falsy value. -/
theorem returns_chosenOf {α : Type} {f : Option Json → Except PyErr α} {j : Json} {P : Prop} (hnone : Returns (f none))
    (hsome : Returns (f (some j)) ↔ P) : Returns (f (chosenOf j)) ↔ (j.truthy = true → P) := by
  unfold chosenOf
  cases ht : j.truthy with
  | false => exact iff_of_true hnone fun h => absurd h Bool.false_ne_true
  | true =>
    rw [if_pos rfl, hsome]
    exact ⟨fun h _ => h, fun h => h rfl⟩

theorem returns_literal (members : List String) (default : String) (j : Json) :
    Returns (literal members default (chosenOf j)) ↔ (j.truthy = true → ∃ s ∈ members, j = .str s) := by
  refine returns_chosenOf ⟨_, rfl⟩ ?_
  cases j with
  | str s =>
    show Returns (if s ∈ members then .ok s else .error .valueError : Except PyErr String) ↔ _
    split
    · rename_i hs
      exact iff_of_true (returns_ok s) ⟨s, hs, rfl⟩
    · rename_i hs
      refine iff_of_false (not_returns_error _) ?_
      rintro ⟨_, hmem, ⟨⟩⟩
      exact hs hmem
  | null | bool _ | int _ | float _ | arr _ | obj _ =>
    refine iff_of_false (not_returns_error _) ?_
    rintro ⟨_, -, ⟨⟩⟩

theorem returns_text (default : String) (j : Json) :
    Returns (text default (chosenOf j)) ↔ (j.truthy = true → isText j = true) := by
  refine returns_chosenOf ⟨_, rfl⟩ ?_
  cases j with
  | str s => exact iff_of_true ⟨_, rfl⟩ rfl
  | null | bool _ | int _ | float _ | arr _ | obj _ => exact iff_of_false (not_returns_error _) Bool.false_ne_true

theorem returns_optionalText (j : Json) :
    Returns (optionalText (chosenOf j)) ↔ (j.truthy = true → isText j = true) := by
  refine returns_chosenOf ⟨_, rfl⟩ ?_
  cases j with
  | str s => exact iff_of_true ⟨_, rfl⟩ rfl
  | null | bool _ | int _ | float _ | arr _ | obj _ => exact iff_of_false (not_returns_error _) Bool.false_ne_true

theorem returns_ofKwargs {data : Obj} {kw : Kwargs} (h : HandedOn data kw) :
    Returns (DIOConfig.ofKwargs kw) ↔ SettingsAccepted data := by
  obtain ⟨hstrategy, hnlms, hablation, hmode, hhost, hkey, htokenizer⟩ := h
  unfold DIOConfig.ofKwargs
  rw [hstrategy, hnlms, hablation, hmode, hhost, hkey, htokenizer]
  refine (returns_bind (returns_literal _ _ _) fun _ => returns_bind (returns_literal _ _ _) fun _ =>
    returns_bind (returns_literal _ _ _) fun _ => returns_bind (returns_literal _ _ _) fun _ =>
    returns_bind (returns_text _ _) fun _ => returns_bind (returns_optionalText _) fun _ =>
    (returns_map _).trans (returns_optionalText _)).trans ?_
  constructor
  · rintro ⟨hstrategy, hnlms, hablation, hmode, hhost, hkey, htokenizer⟩
    constructor
    · simp only [List.forall_mem_cons]
      exact ⟨hstrategy, hnlms, hablation, hmode, List.forall_mem_nil _⟩
    · simp only [List.forall_mem_cons]
      exact ⟨hhost, hkey, htokenizer, List.forall_mem_nil _⟩
  · rintro ⟨hchoices, htexts⟩
    simp only [List.forall_mem_cons] at hchoices htexts
    obtain ⟨hstrategy, hnlms, hablation, hmode, -⟩ := hchoices
    obtain ⟨hhost, hkey, htokenizer, -⟩ := htexts
    exact ⟨hstrategy, hnlms, hablation, hmode, hhost, hkey, htokenizer⟩

/-! ## The exceptions of `load_config_file` -/

/-- What the parser returns, of the right shape: a topology that is, and where no entry is refused, settings that
are read and accepted. -/
def Shaped (L : Loader) (isJson : Bool) (parsed : Json) : Prop :=
  TopologyShaped L (loadYaml isJson parsed) ∧ (TopologyClean L (loadYaml isJson parsed) →
    ∀ data, loadYaml isJson parsed = .obj data → SettingsRead L.U data ∧ SettingsAccepted data)

/-- After the topology an exception is one of the settings', and none is a ConfigError. -/
theorem spares_settings (L : Loader) (topology : Topology) (data : Obj) : Spares LoadExn.IsRaised (do
      let kw ← (configKwargs L.U (.obj data)).mapError .raised
      let config ← (DIOConfig.ofKwargs kw).mapError .raised
      return (⟨topology, config⟩ : Loaded)) ↔ SettingsRead L.U data ∧ SettingsAccepted data := by
  have hlast : ∀ kw, Spares LoadExn.IsRaised (do
      let config ← (DIOConfig.ofKwargs kw).mapError .raised
      return (⟨topology, config⟩ : Loaded)) ↔ Returns (DIOConfig.ofKwargs kw) := by
    intro kw
    rw [spares_bind, spares_mapError fun _ => trivial]
    exact and_iff_left fun _ _ => spares_ok _
  rw [spares_bind, spares_mapError fun _ => trivial]
  constructor
  · rintro ⟨⟨kw, hkw⟩, h⟩
    have hread := read_of_configKwargs hkw
    obtain ⟨kw', hkw', hand⟩ := configKwargs_of_read hread
    rw [hkw] at hkw'
    cases hkw'
    exact ⟨hread, (returns_ofKwargs hand).1 ((hlast kw).1 (h kw (by rw [hkw]; rfl)))⟩
  · rintro ⟨hread, haccept⟩
    obtain ⟨kw, hkw, hand⟩ := configKwargs_of_read hread
    rw [hkw]
    refine ⟨⟨kw, rfl⟩, ?_⟩
    rintro _ ⟨⟩
    exact (hlast kw).2 ((returns_ofKwargs hand).2 haccept)

/-- `load_config_file` returns or raises a ConfigError exactly on what is of the right shape. -/
theorem only_config_errors_iff (L : Loader) (isJson : Bool) (parsed : Json) :
    ((∃ loaded, loadConfigFile L isJson parsed = .ok loaded) ∨
        ∃ message, loadConfigFile L isJson parsed = .error (.configError message)) ↔ Shaped L isJson parsed := by
  have hspares : ((∃ loaded, loadConfigFile L isJson parsed = .ok loaded) ∨
      ∃ message, loadConfigFile L isJson parsed = .error (.configError message)) ↔
      Spares LoadExn.IsRaised (loadConfigFile L isJson parsed) := by
    cases loadConfigFile L isJson parsed with
    | ok loaded => exact iff_of_true (.inl ⟨loaded, rfl⟩) (spares_ok _)
    | error e =>
      cases e with
      | configError message => exact iff_of_true (.inr ⟨message, rfl⟩) (spares_error.2 id)
      | raised e =>
        refine iff_of_false ?_ fun h => h _ rfl trivial
        rintro (⟨_, ⟨⟩⟩ | ⟨_, ⟨⟩⟩)
  rw [hspares]
  unfold loadConfigFile Shaped
  dsimp only
  generalize loadYaml isJson parsed = data
  rw [spares_bind, spares_loadTopology]
  refine and_congr_right fun hshape => ?_
  rw [← returns_loadTopology L hshape]
  constructor
  · rintro h ⟨topology, htop⟩ members rfl
    exact (spares_settings L topology members).1 (h topology htop)
  · intro h topology htop
    obtain ⟨members, -, rfl, -⟩ := (returns_loadTopology L hshape).1 ⟨topology, htop⟩
    exact (spares_settings L topology members).2 (h ⟨topology, htop⟩ members rfl)

/-- A loader of a `dio.yaml` whose URLs are `http://host:port`. -/
def httpLoader : Loader where
  U := .ascii
  urlsplit url := .ok ⟨String.ofList (url.toList.takeWhile (· ≠ ':')),
    some (String.ofList ((url.toList.drop 7).takeWhile (· ≠ ':')))⟩
  path := "dio.yaml"
  textFor := repr .ascii

/-- An entry with a URL. -/
def gpu : Json := .obj [("id", .str "gpu"), ("url", .str "http://a:1"), ("vram", .float (.fin 24000))]

/-- Files whose exceptions are no ConfigErrors: an entry that is a number, an empty `vram`, a port in words, a
strategy there is none of. -/
theorem config_exceptions :
    loadConfigFile httpLoader false (.obj [("backends", .arr [.int 8000])]) = .error (.raised .attributeError) ∧
    loadConfigFile httpLoader false (.obj [("backends", .arr [.obj [("url", .str "http://a:1"), ("vram", .null)]])]) =
      .error (.raised .typeError) ∧
    loadConfigFile httpLoader false (.obj [("backends", .arr [gpu]), ("server", .obj [("port", .str "http")])]) =
      .error (.raised .valueError) ∧
    loadConfigFile httpLoader false (.obj [("backends", .arr [gpu]),
      ("scheduler", .obj [("strategy", .str "fastest")])]) =
      .error (.raised .valueError) :=
  ⟨rfl, rfl, rfl, rfl⟩

end Dio.Config
