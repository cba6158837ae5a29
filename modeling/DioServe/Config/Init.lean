/-
The configuration `dio init` writes for the backends it found (`generate_detected_config`), and what
`load_config_file` makes of it: names are written without quotes, and read by the rules of YAML.
-/
import DioServe.Config.Load
import DioServe.Py.Yaml

namespace Dio.Config

open Data Py Py.Yaml Gateway Text Text.BlockYaml

/-! ## What is written -/

/-- A backend as `detect_local_backends` describes it. -/
structure Discovered where
  id : String
  url : String
  tier : String
  engine : String
  models : List String

/-- The lines of `generate_example_config`. -/
def exampleLines : List (List Char) :=
  ["# DIO Configuration - Distributed Inference Orchestrator", "# Docs: https://github.com/nisaral/DIO", "",
    "backends:",
    "  # Local vLLM instance", "  - id: local-gpu", "    url: http://localhost:8000", "    tier: large",
    "    engine: vllm",
    "    models:", "      - meta-llama/Llama-3.2-3B-Instruct", "", "  # Second GPU / remote server",
    "  # - id: remote-a100",
    "  #   url: http://10.0.1.5:8000", "  #   tier: large", "  #   engine: vllm", "  #   vram: 81920", "  #   models:",
    "  #     - meta-llama/Llama-3.1-70B-Instruct", "", "  # Ollama (local CPU/GPU)", "  # - id: ollama",
    "  #   url: http://localhost:11434", "  #   tier: small", "  #   engine: ollama", "  #   models:",
    "  #     - llama3",
    "  #     - codellama", "  #     - mistral", "", "scheduler:",
    "  strategy: nlms        # nlms | rls | ewma | static | round_robin | least_loaded",
    "  nlms_mode: dual       # dual | single",
    "  engine_metrics: true  # scrape vLLM /metrics for KV-cache-aware routing",
    "  cache_bonus_ms: 200   # session affinity bonus for multi-turn",
    "  affinity_cache_size: 2048  # how many session prefixes stay pinned in the LRU", "", "admission:",
    "  mode: empirical       # empirical | strict | rank_only | absolute",
    "  slo_ms: 30000         # max acceptable e2e latency (ms)",
    "  percentile: 95        # for empirical / strict mode", "", "server:", "  host: 0.0.0.0", "  port: 8085",
    "  timeout: 300          # request timeout (s)", ""].map String.toList

def headerLines : List (List Char) :=
  ["# DIO Configuration - Auto-discovered Local Backends", "# Generated by: dio init",
    "# Docs: https://github.com/nisaral/DIO", "", "backends:"].map String.toList

/-- The lines of one backend. -/
def backendLines (b : Discovered) : List (List Char) :=
  ["  - id: ".toList ++ b.id.toList, "    url: ".toList ++ b.url.toList, "    tier: ".toList ++ b.tier.toList,
    "    engine: ".toList ++ b.engine.toList] ++
  (if b.models = [] then [] else "    models:".toList :: b.models.map fun m => "      - ".toList ++ m.toList) ++ [[]]

def footerLines : List (List Char) :=
  ["scheduler:", "  strategy: nlms        # nlms | rls | ewma | static | round_robin | least_loaded",
    "  nlms_mode: dual       # dual | single",
    "  engine_metrics: true  # scrape vLLM /metrics for KV-cache-aware routing",
    "  cache_bonus_ms: 200   # session affinity bonus for multi-turn",
    "  affinity_cache_size: 2048  # pinned session prefixes in the LRU", "", "admission:",
    "  mode: empirical       # empirical | strict | rank_only | absolute",
    "  slo_ms: 30000         # max acceptable e2e latency (ms)",
    "  percentile: 95        # for empirical / strict mode", "", "server:", "  host: 0.0.0.0", "  port: 8085",
    "  timeout: 300          # request timeout (s)"].map String.toList

/-- `"\n".join(lines)`. -/
def joinLines (ls : List (List Char)) : List Char := ['\n'].intercalate ls

/-- `generate_detected_config`. -/
def generateDetectedConfig : List Discovered → List Char
  | [] => joinLines exampleLines
  | b :: bs => joinLines (headerLines ++ (b :: bs).flatMap backendLines ++ footerLines ++ [[]])

/-! ## The lines of the text -/

theorem joinLines_nil : ∀ ls : List (List Char), joinLines (ls ++ [[]]) = Lines.unlines ls
  | [] => rfl
  | l :: ls => by
    have hcons : joinLines (l :: (ls ++ [[]])) = l ++ '\n' :: joinLines (ls ++ [[]]) := by
      cases ls with
      | nil => simp [joinLines, List.intercalate]
      | cons m ms => simp [joinLines, List.intercalate]
    rw [List.cons_append, hcons, joinLines_nil ls]
    simp [Lines.unlines]

theorem lineTokens_append (as bs : List (List Char)) :
    lineTokens (as ++ bs) = (do return (← lineTokens as) ++ (← lineTokens bs)) := by
  induction as with
  | nil =>
    show lineTokens bs = (lineTokens bs >>= fun ts => pure ([] ++ ts))
    cases lineTokens bs <;> rfl
  | cons l ls ih =>
    rw [List.cons_append, lineTokens, lineTokens]
    split
    · rfl
    · rw [ih]
      cases tokens 0 l with
      | error e => rfl
      | ok ts =>
        cases lineTokens ls with
        | error e => rfl
        | ok us =>
          cases lineTokens bs with
          | error e => rfl
          | ok vs => show Except.ok _ = Except.ok _; rw [List.append_assoc]

/-- Of lines that are read each is. -/
theorem lineTokens_mem : ∀ {ls : List (List Char)} {toks : List Placed}, lineTokens ls = .ok toks →
    ∀ l ∈ ls, ∃ ts, tokens 0 l = .ok ts
  | [], _, _ => List.forall_mem_nil _
  | l :: ls, toks, h => by
    rw [lineTokens] at h
    split at h
    · cases h
    · obtain ⟨ts, hts, h⟩ := bind_ok_iff.1 h
      obtain ⟨us, hus, -⟩ := bind_ok_iff.1 h
      exact List.forall_mem_cons.2 ⟨⟨ts, hts⟩, lineTokens_mem hus⟩

theorem header_tokens : lineTokens headerLines = .ok [(0, .key "backends".toList)] := by decide

/-- The tokens of the settings. -/
def footerTokens : List Placed :=
  [(0, .key "scheduler".toList), (2, .key "strategy".toList), (12, .scalar "nlms".toList), (2, .key "nlms_mode".toList),
    (13, .scalar "dual".toList), (2, .key "engine_metrics".toList), (18, .scalar "true".toList),
    (2, .key "cache_bonus_ms".toList),
    (18, .scalar "200".toList), (2, .key "affinity_cache_size".toList), (23, .scalar "2048".toList),
    (0, .key "admission".toList),
    (2, .key "mode".toList), (8, .scalar "empirical".toList), (2, .key "slo_ms".toList), (10, .scalar "30000".toList),
    (2, .key "percentile".toList), (14, .scalar "95".toList), (0, .key "server".toList), (2, .key "host".toList),
    (8, .scalar "0.0.0.0".toList), (2, .key "port".toList), (8, .scalar "8085".toList), (2, .key "timeout".toList),
    (11, .scalar "300".toList)]

theorem footer_tokens : lineTokens footerLines = .ok footerTokens := by decide

theorem lineTokens_cons {l : List Char} (h : l.head? ≠ some '-' ∧ l.head? ≠ some '.') (ls : List (List Char)) :
    lineTokens (l :: ls) = (do return (← tokens 0 l) ++ (← lineTokens ls)) := by
  rw [lineTokens, if_neg]
  rintro (hl | hl)
  · cases l with
    | nil => cases hl
    | cons c cs => exact h.1 (congrArg some (List.cons.inj hl).1)
  · cases l with
    | nil => cases hl
    | cons c cs => exact h.2 (congrArg some (List.cons.inj hl).1)

/-- A key with a plain value. -/
theorem field_tokens {w : List Char} (hw : IsWord w) {cs : List Char} (h : IsPlain cs) (col : Nat) :
    tokens col (w ++ ':' :: ' ' :: cs) = .ok [(col, .key w), (col + w.length + 2, .scalar cs)] := by
  have hvalue : value (col + w.length + 1) (' ' :: cs) = .ok [(col + w.length + 2, .scalar cs)] := by
    rw [value, if_pos rfl, value_plain h]
  rw [tokens_key hw rfl, hvalue]
  rfl

/-- A backend whose fields are read back as themselves. -/
structure FieldsReadBack (L : Loader) (b : Discovered) : Prop where
  id : ReadsBack b.id.toList ∧ IsLine b.id.toList
  url : ReadsBack b.url.toList ∧ IsLine b.url.toList
  tier : ReadsBack b.tier.toList ∧ IsLine b.tier.toList
  engine : ReadsBack b.engine.toList ∧ IsLine b.engine.toList
  validated : rstripSlash b.url = b.url ∧ validateBackendUrl L b.url (.str b.id) = .ok b.url

/-- The tokens under a backend's dash; `names` are those of the model names. -/
def entryTokens (names : String → List Placed) (b : Discovered) : List Placed :=
  (4, .key "id".toList) :: (8, .scalar b.id.toList) :: (4, .key "url".toList) :: (9, .scalar b.url.toList) ::
    (4, .key "tier".toList) :: (10, .scalar b.tier.toList) :: (4, .key "engine".toList) ::
    (12, .scalar b.engine.toList) ::
    (if b.models = [] then [] else (4, .key "models".toList) :: b.models.flatMap fun m => (6, .dash) :: names m)

section Tokens

variable {L : Loader} {names : String → List Placed}

theorem name_tokens {m : String} (h : tokens 8 m.toList = .ok (names m)) :
    tokens 0 ("      - ".toList ++ m.toList) = .ok ((6, .dash) :: names m) := by
  show (do return (6, .dash) :: (← tokens 8 m.toList) : Except Stop (List Placed)) = _
  rw [h]
  rfl

theorem names_tokens : ∀ {ms : List String}, (∀ m ∈ ms, tokens 8 m.toList = .ok (names m)) →
    lineTokens (ms.map fun m => "      - ".toList ++ m.toList) = .ok (ms.flatMap fun m => (6, .dash) :: names m)
  | [], _ => rfl
  | m :: ms, h => by
    obtain ⟨hm, hms⟩ := List.forall_mem_cons.1 h
    rw [List.map_cons, lineTokens_cons ⟨by simp, by simp⟩, name_tokens hm, names_tokens hms, List.flatMap_cons]
    rfl

theorem backend_tokens {b : Discovered} (hb : FieldsReadBack L b)
    (hnames : ∀ m ∈ b.models, tokens 8 m.toList = .ok (names m)) :
    lineTokens (backendLines b) = .ok ((2, .dash) :: entryTokens names b) := by
  have hid : tokens 0 ("  - id: ".toList ++ b.id.toList) =
      .ok [(2, .dash), (4, .key "id".toList), (8, .scalar b.id.toList)] := by
    show (do return (2, .dash) :: (← tokens 4 ("id".toList ++ ':' :: ' ' :: b.id.toList)) :
      Except Stop (List Placed)) = _
    rw [field_tokens (by decide) hb.id.1.plain]
    rfl
  have hurl : tokens 0 ("    url: ".toList ++ b.url.toList) = .ok [(4, .key "url".toList), (9, .scalar b.url.toList)] :=
    field_tokens (w := "url".toList) (by decide) hb.url.1.plain 4
  have htier : tokens 0 ("    tier: ".toList ++ b.tier.toList) =
    .ok [(4, .key "tier".toList), (10, .scalar b.tier.toList)] :=
    field_tokens (w := "tier".toList) (by decide) hb.tier.1.plain 4
  have hengine : tokens 0 ("    engine: ".toList ++ b.engine.toList) =
      .ok [(4, .key "engine".toList), (12, .scalar b.engine.toList)] :=
    field_tokens (w := "engine".toList) (by decide) hb.engine.1.plain 4
  have hmodels : lineTokens (if b.models = [] then [] else "    models:".toList ::
    b.models.map fun m => "      - ".toList ++ m.toList) =
      .ok (if b.models = [] then [] else (4, .key "models".toList) ::
        b.models.flatMap fun m => (6, .dash) :: names m) := by
    split
    · rfl
    · have hkey : tokens 0 "    models:".toList = .ok [(4, .key "models".toList)] := by decide
      rw [lineTokens_cons ⟨by decide, by decide⟩, hkey, names_tokens hnames]
      rfl
  have hlast : lineTokens [[]] = .ok [] := by decide
  unfold backendLines
  rw [lineTokens_append, lineTokens_append, hmodels, hlast, lineTokens_cons ⟨by simp, by simp⟩, hid,
    lineTokens_cons ⟨by simp, by simp⟩, hurl, lineTokens_cons ⟨by simp, by simp⟩, htier,
      lineTokens_cons ⟨by simp, by simp⟩, hengine]
  unfold entryTokens
  split
  · rfl
  · simp [lineTokens, bind, Except.bind, pure, Except.pure]

theorem backends_tokens : ∀ {bs : List Discovered}, (∀ b ∈ bs, FieldsReadBack L b) →
    (∀ b ∈ bs, ∀ m ∈ b.models, tokens 8 m.toList = .ok (names m)) →
    lineTokens (bs.flatMap backendLines) = .ok (bs.flatMap fun b => (2, .dash) :: entryTokens names b)
  | [], _, _ => rfl
  | b :: bs, hb, hnames => by
    obtain ⟨hb, hbs⟩ := List.forall_mem_cons.1 hb
    obtain ⟨hm, hms⟩ := List.forall_mem_cons.1 hnames
    rw [List.flatMap_cons, lineTokens_append, backend_tokens hb hm, backends_tokens hbs hms, List.flatMap_cons]
    rfl

end Tokens

/-! ## The value of the text -/

/-- The member of a backend for its models. -/
def modelsMember (b : Discovered) (models : List Json) : Obj := if b.models = [] then [] else [("models", .arr models)]

def entryJson (b : Discovered) (models : List Json) : Json :=
  .obj ([("id", .str b.id), ("url", .str b.url), ("tier", .str b.tier), ("engine", .str b.engine)] ++
    modelsMember b models)

def settingsJson : Obj :=
  [("scheduler", .obj [("strategy", .str "nlms"), ("nlms_mode", .str "dual"), ("engine_metrics", .bool true),
    ("cache_bonus_ms", .int 200), ("affinity_cache_size", .int 2048)]),
    ("admission", .obj [("mode", .str "empirical"), ("slo_ms", .int 30000), ("percentile", .int 95)]),
    ("server", .obj [("host", .str "0.0.0.0"), ("port", .int 8085), ("timeout", .int 300)])]

def docJson (entries : List Json) : Json := .obj (("backends", .arr entries) :: settingsJson)

section Parse

variable {L : Loader} {names : String → List Placed} (constructs : List Char → Json)

/-- The values of nested tokens, as PyYAML makes them. -/
def parseJson (n : Nat) (toks : List Placed) : Except Stop Json :=
  parse (resolve constructs) Json.arr (mapping constructs) n toks

theorem memberAt_word {w : String} (h : isTextScalar w.toList = true) (j : Json) :
    memberAt constructs (w.toList, j) = .ok (w, j) := by
  unfold memberAt
  rw [resolve_text constructs h]
  show Except.ok (String.ofList w.toList, j) = _
  rw [String.ofList_toList]

/-- A mapping whose keys are different words. -/
theorem mapping_words (kvs : Obj) (h : ∀ kv ∈ kvs, isTextScalar kv.1.toList = true) :
    mapping constructs (kvs.map fun kv => (kv.1.toList, kv.2)) = .ok (.obj (Dict.update [] kvs)) := by
  have hkeys : readEach (memberAt constructs) (kvs.map fun kv => (kv.1.toList, kv.2)) = .ok kvs := by
    rw [readEach_map]
    have hsame := readEach_ok (f := fun kv : String × Json => memberAt constructs (kv.1.toList, kv.2)) (g := id)
      fun kv hkv => memberAt_word constructs (h kv hkv) kv.2
    rwa [List.map_id] at hsame
  unfold mapping
  rw [hkeys]
  rfl

theorem parseJson_scalar {cs : List Char} (h : isTextScalar cs = true) (n c : Nat) :
    parseJson constructs (n + 1) [(c, .scalar cs)] = .ok (.str (String.ofList cs)) := by
  rw [← resolve_text constructs h]
  exact parse_scalar n c cs []

/-- The names under `models:`. -/
theorem parse_names {b : Discovered} (hne : b.models ≠ []) (hcols : ∀ m ∈ b.models, ∀ t ∈ names m, 6 < t.1) (k : Nat) :
    parseJson constructs (k + 1) (b.models.flatMap fun m => (6, .dash) :: names m) =
      (do return .arr (← readEach (fun m => parseJson constructs k (names m)) b.models)) := by
  obtain ⟨m, ms, hms⟩ := List.exists_cons_of_ne_nil hne
  have hgroups : groups 6 (b.models.flatMap fun m => (6, .dash) :: names m) =
    some ([], b.models.map fun m => (.dash, names m)) :=
    groups_flatMap (fun _ => .dash) names hcols
  have hcons : (b.models.flatMap fun m => (6, Tok.dash) :: names m) =
      (6, .dash) :: (names m ++ ms.flatMap fun m => (6, .dash) :: names m) := by
    rw [hms, List.flatMap_cons, List.cons_append]
  rw [hcons] at hgroups ⊢
  unfold parseJson
  rw [parse_dashes hgroups, readEach_map]
  rfl

/-- The groups of a backend's tokens. -/
def entryGroups (names : String → List Placed) (b : Discovered) : List (Tok × List Placed) :=
  (.key "id".toList, [(8, .scalar b.id.toList)]) :: (.key "url".toList, [(9, .scalar b.url.toList)]) ::
    (.key "tier".toList, [(10, .scalar b.tier.toList)]) :: (.key "engine".toList, [(12, .scalar b.engine.toList)]) ::
    (if b.models = [] then [] else [(.key "models".toList, b.models.flatMap fun m => (6, .dash) :: names m)])

theorem groups_entry {b : Discovered} (hcols : ∀ m ∈ b.models, ∀ t ∈ names m, 6 < t.1) :
    groups 4 (entryTokens names b) = some ([], entryGroups names b) := by
  have hmodels : groups 4 (if b.models = [] then [] else (4, .key "models".toList) ::
      b.models.flatMap fun m => (6, .dash) :: names m) = some ([], if b.models = [] then [] else
      [(.key "models".toList, b.models.flatMap fun m => (6, .dash) :: names m)]) := by
    split
    · rfl
    · have hkids : ∀ t ∈ b.models.flatMap (fun m => (6, Tok.dash) :: names m), 4 < t.1 := by
        intro t ht
        obtain ⟨m, hm, ht⟩ := List.mem_flatMap.1 ht
        rcases List.mem_cons.1 ht with rfl | ht
        · decide
        · have hcol := hcols m hm t ht
          omega
      have hend : groups 4 [] = some ([], []) := rfl
      have h := groups_cons (.key "models".toList) hend hkids
      rwa [List.append_nil] at h
  have hone : ∀ (c : Nat) (cs : List Char), 4 < c → ∀ t ∈ [(c, Tok.scalar cs)], 4 < t.1 := by
    intro c cs hc
    rwa [List.forall_mem_singleton]
  have hengine := groups_cons (.key "engine".toList) hmodels (hone 12 b.engine.toList (by omega))
  have htier := groups_cons (.key "tier".toList) hengine (hone 10 b.tier.toList (by omega))
  have hurl := groups_cons (.key "url".toList) htier (hone 9 b.url.toList (by omega))
  exact groups_cons (.key "id".toList) hurl (hone 8 b.id.toList (by omega))

/-- One backend: its value is there when the values of all its names are. -/
theorem parse_entry {b : Discovered} (hb : FieldsReadBack L b) (hcols : ∀ m ∈ b.models, ∀ t ∈ names m, 6 < t.1)
    (k : Nat) :
    parseJson constructs (k + 2) (entryTokens names b) =
      (do return entryJson b (← readEach (fun m => parseJson constructs k (names m)) b.models)) := by
  have hfield : ∀ {w s : String} {c : Nat}, ReadsBack s.toList →
      keyed (parseJson constructs (k + 1)) (.key w.toList, [(c, .scalar s.toList)]) = .ok (w.toList, .str s) := by
    intro w s c hs
    rw [keyed, parseJson_scalar constructs hs.isText, String.ofList_toList]
    rfl
  have hkeys : parseJson constructs (k + 2) (entryTokens names b) =
      (readEach (keyed (parseJson constructs (k + 1))) (entryGroups names b) >>= mapping constructs) :=
    parse_keys (groups_entry hcols)
  have hwords : ∀ models : List Json, mapping constructs (("id".toList, .str b.id) :: ("url".toList, .str b.url) ::
      ("tier".toList, .str b.tier) :: ("engine".toList, .str b.engine) ::
      (modelsMember b models).map fun kv => (kv.1.toList, kv.2)) = .ok (entryJson b models) := by
    intro models
    have h := mapping_words constructs ([("id", .str b.id), ("url", .str b.url), ("tier", .str b.tier),
      ("engine", .str b.engine)] ++ modelsMember b models) (by
        unfold modelsMember
        split
        · simp only [List.append_nil, List.forall_mem_cons]
          exact ⟨by decide, by decide, by decide, by decide, List.forall_mem_nil _⟩
        · simp only [List.cons_append, List.nil_append, List.forall_mem_cons]
          exact ⟨by decide, by decide, by decide, by decide, by decide, List.forall_mem_nil _⟩)
    rw [entryJson]
    refine h.trans ?_
    unfold modelsMember
    split
    · rfl
    · rfl
  rw [hkeys, entryGroups, readEach_cons (hfield hb.id.1), readEach_cons (hfield hb.url.1),
    readEach_cons (hfield hb.tier.1),
    readEach_cons (hfield hb.engine.1)]
  by_cases hne : b.models = []
  · have h := hwords []
    rw [if_pos hne, hne]
    rw [modelsMember, if_pos hne] at h
    exact h
  · rw [if_neg hne, readEach, keyed, parse_names constructs hne hcols]
    cases readEach (fun m => parseJson constructs k (names m)) b.models with
    | error e => rfl
    | ok models =>
      have h := hwords models
      rw [modelsMember, if_neg hne] at h
      simp only [readEach, ok_bind, pure, Except.pure]
      exact h

/-! ### The settings -/

/-- A setting: its key, the column of its value, the scalar and what it resolves to. -/
structure Setting where
  key : String
  col : Nat
  scalar : List Char
  value : Json

/-- A setting is read. -/
def Setting.Reads (f : Setting) : Prop :=
  isTextScalar f.key.toList = true ∧ 2 < f.col ∧ resolve constructs f.scalar = .ok f.value

theorem keyed_field {f : Setting} (h : f.Reads constructs) (n : Nat) :
    keyed (parseJson constructs (n + 1))
      (.key f.key.toList, [(f.col, .scalar f.scalar)]) = .ok (f.key.toList, f.value) := by
  have hleaf : parseJson constructs (n + 1) [(f.col, .scalar f.scalar)] = .ok f.value := by
    rw [← h.2.2]
    exact parse_scalar n f.col f.scalar []
  rw [keyed, hleaf]
  rfl

/-- A section is the mapping of its settings. -/
theorem parse_section {f : Setting} {fs : List Setting} (h : ∀ g ∈ f :: fs, g.Reads constructs) (n : Nat) :
    parseJson constructs (n + 2) ((f :: fs).flatMap fun g => [(2, .key g.key.toList), (g.col, .scalar g.scalar)]) =
      .ok (.obj (Dict.update [] ((f :: fs).map fun g => (g.key, g.value)))) := by
  have hcols : ∀ g ∈ f :: fs, ∀ t ∈ [(g.col, Tok.scalar g.scalar)], 2 < t.1 := by
    intro g hg t ht
    rw [List.mem_singleton.1 ht]; exact (h g hg).2.1
  have hgroups := groups_flatMap (fun g : Setting => .key g.key.toList) (fun g => [(g.col, .scalar g.scalar)]) hcols
  have hkeys : parseJson constructs (n + 2)
    ((f :: fs).flatMap fun g => [(2, .key g.key.toList), (g.col, .scalar g.scalar)]) =
      (readEach (keyed (parseJson constructs (n + 1)))
        ((f :: fs).map fun g => (.key g.key.toList, [(g.col, .scalar g.scalar)])) >>= mapping constructs) :=
    parse_keys hgroups
  have hvalues : readEach (fun g : Setting => keyed (parseJson constructs (n + 1))
    (.key g.key.toList, [(g.col, .scalar g.scalar)]))
      (f :: fs) = .ok ((f :: fs).map fun g => (g.key.toList, g.value)) :=
        readEach_ok fun g hg => keyed_field constructs (h g hg) n
  have hwords := mapping_words constructs ((f :: fs).map fun g => (g.key, g.value)) fun kv hkv => by
    obtain ⟨g, hg, rfl⟩ := List.mem_map.1 hkv
    exact (h g hg).1
  rw [List.map_map] at hwords
  rw [hkeys, readEach_map, hvalues, ok_bind]
  exact hwords

theorem resolve_decimal {cs : List Char} (htext : isTextScalar cs = false)
    (hword : cs ∉ nulls ∧ cs ∉ trues ∧ cs ∉ falses ∧ cs ∉ unconstructed)
    (hdecimal : decimalRe.rmatch cs = true) : resolve constructs cs = .ok (.int (decimalValue cs)) := by
  obtain ⟨hnull, htrue, hfalse, hnone⟩ := hword
  rw [resolve, if_neg (by rw [htext]; exact Bool.false_ne_true), if_neg hnull, if_neg htrue, if_neg hfalse,
    if_neg hnone,
    if_pos hdecimal]

def schedulerFields : List Setting :=
  [⟨"strategy", 12, "nlms".toList, .str "nlms"⟩, ⟨"nlms_mode", 13, "dual".toList, .str "dual"⟩,
    ⟨"engine_metrics", 18, "true".toList, .bool true⟩, ⟨"cache_bonus_ms", 18, "200".toList, .int 200⟩,
    ⟨"affinity_cache_size", 23, "2048".toList, .int 2048⟩]

def admissionFields : List Setting :=
  [⟨"mode", 8, "empirical".toList, .str "empirical"⟩, ⟨"slo_ms", 10, "30000".toList, .int 30000⟩,
    ⟨"percentile", 14, "95".toList, .int 95⟩]

def serverFields : List Setting :=
  [⟨"host", 8, "0.0.0.0".toList, .str "0.0.0.0"⟩, ⟨"port", 8, "8085".toList, .int 8085⟩,
    ⟨"timeout", 11, "300".toList, .int 300⟩]

def fieldTokens (fs : List Setting) : List Placed :=
  fs.flatMap fun f => [(2, .key f.key.toList), (f.col, .scalar f.scalar)]

theorem text_reads {k : String} {c : Nat} {v : String} (hk : isTextScalar k.toList = true) (hc : 2 < c)
    (hv : isTextScalar v.toList = true) : Setting.Reads constructs ⟨k, c, v.toList, .str v⟩ :=
  ⟨hk, hc, (resolve_text constructs hv).trans (by rw [String.ofList_toList])⟩

theorem int_reads {k : String} {c : Nat} {v : List Char} {n : Int} (hk : isTextScalar k.toList = true) (hc : 2 < c)
    (hv : isTextScalar v = false ∧ (v ∉ nulls ∧ v ∉ trues ∧ v ∉ falses ∧ v ∉ unconstructed) ∧
      decimalRe.rmatch v = true ∧
      decimalValue v = n) : Setting.Reads constructs ⟨k, c, v, .int n⟩ :=
  ⟨hk, hc, (resolve_decimal constructs hv.1 hv.2.1 hv.2.2.1).trans (by rw [hv.2.2.2])⟩

theorem fields_read : (∀ f ∈ schedulerFields, f.Reads constructs) ∧ (∀ f ∈ admissionFields, f.Reads constructs) ∧
    ∀ f ∈ serverFields, f.Reads constructs := by
  have hflag : Setting.Reads constructs ⟨"engine_metrics", 18, "true".toList, .bool true⟩ := by
    refine ⟨by decide, by decide, ?_⟩
    rw [resolve, if_neg (by decide), if_neg (by decide), if_pos (by decide)]
  simp only [schedulerFields, admissionFields, serverFields, List.forall_mem_cons]
  refine ⟨⟨?_, ?_, hflag, ?_, ?_, List.forall_mem_nil _⟩, ⟨?_, ?_, ?_, List.forall_mem_nil _⟩, ?_, ?_, ?_,
    List.forall_mem_nil _⟩
  · exact text_reads constructs (by decide) (by decide) (by decide)
  · exact text_reads constructs (by decide) (by decide) (by decide)
  · exact int_reads constructs (by decide) (by decide) (by decide)
  · exact int_reads constructs (by decide) (by decide) (by decide)
  · exact text_reads constructs (by decide) (by decide) (by decide)
  · exact int_reads constructs (by decide) (by decide) (by decide)
  · exact int_reads constructs (by decide) (by decide) (by decide)
  · exact text_reads constructs (by decide) (by decide) (by decide)
  · exact int_reads constructs (by decide) (by decide) (by decide)
  · exact int_reads constructs (by decide) (by decide) (by decide)

/-! ### The document -/

/-- The tokens of the text. -/
def docTokens (names : String → List Placed) (bs : List Discovered) : List Placed :=
  (0, .key "backends".toList) :: (bs.flatMap (fun b => (2, .dash) :: entryTokens names b) ++ footerTokens)

def footerGroups : List (Tok × List Placed) :=
  [(.key "scheduler".toList, fieldTokens schedulerFields), (.key "admission".toList, fieldTokens admissionFields),
    (.key "server".toList, fieldTokens serverFields)]

theorem groups_footer : groups 0 footerTokens = some ([], footerGroups) := by decide

theorem entryTokens_cols {b : Discovered} (hcols : ∀ m ∈ b.models, ∀ t ∈ names m, 6 < t.1) :
    ∀ t ∈ entryTokens names b, 2 < t.1 := by
  intro t ht
  simp only [entryTokens, List.mem_cons] at ht
  rcases ht with rfl | rfl | rfl | rfl | rfl | rfl | rfl | rfl | ht
  iterate 8 simp
  split at ht
  · cases ht
  · rcases List.mem_cons.1 ht with rfl | ht
    · decide
    · obtain ⟨m, hm, ht⟩ := List.mem_flatMap.1 ht
      rcases List.mem_cons.1 ht with rfl | ht
      · decide
      · have hcol := hcols m hm t ht
        omega

/-- The value of the text is there when the values of all names are. -/
theorem parse_doc {bs : List Discovered} (hne : bs ≠ []) (hbs : ∀ b ∈ bs, FieldsReadBack L b)
    (hcols : ∀ b ∈ bs, ∀ m ∈ b.models, ∀ t ∈ names m, 6 < t.1) (k : Nat) :
    parseJson constructs (k + 4) (docTokens names bs) = (do
      return docJson (← readEach (fun b => do
        return entryJson b (← readEach (fun m => parseJson constructs k (names m)) b.models)) bs)) := by
  have hkids : ∀ t ∈ bs.flatMap (fun b => (2, Tok.dash) :: entryTokens names b), 0 < t.1 := by
    intro t ht
    obtain ⟨b, hb, ht⟩ := List.mem_flatMap.1 ht
    rcases List.mem_cons.1 ht with rfl | ht
    · decide
    · have hcol := entryTokens_cols (hcols b hb) t ht
      omega
  have hkeys : parseJson constructs (k + 4) (docTokens names bs) = (readEach (keyed (parseJson constructs (k + 3)))
      ((.key "backends".toList, bs.flatMap fun b => (2, .dash) :: entryTokens names b) :: footerGroups) >>=
        mapping constructs) :=
    parse_keys (groups_cons _ groups_footer hkids)
  have hdashes : parseJson constructs (k + 3) (bs.flatMap fun b => (2, .dash) :: entryTokens names b) =
      (do return .arr (← readEach (fun b => parseJson constructs (k + 2) (entryTokens names b)) bs)) := by
    have hbelow : ∀ b ∈ bs, ∀ t ∈ entryTokens names b, 2 < t.1 := fun b hb => entryTokens_cols (hcols b hb)
    have hgroups := groups_flatMap (fun _ => .dash) (entryTokens names) hbelow
    obtain ⟨b, bs', rfl⟩ := List.exists_cons_of_ne_nil hne
    have hcons : ((b :: bs').flatMap fun b => (2, Tok.dash) :: entryTokens names b) =
        (2, .dash) :: (entryTokens names b ++ bs'.flatMap fun b => (2, .dash) :: entryTokens names b) := by
      rw [List.flatMap_cons, List.cons_append]
    rw [hcons] at hgroups ⊢
    unfold parseJson
    rw [parse_dashes hgroups, readEach_map]
    rfl
  have hentries : readEach (fun b => parseJson constructs (k + 2) (entryTokens names b)) bs = readEach (fun b => do
      return entryJson b (← readEach (fun m => parseJson constructs k (names m)) b.models)) bs :=
    readEach_congr fun b hb => parse_entry constructs (hbs b hb) (hcols b hb) k
  obtain ⟨hscheduler, hadmission, hserver⟩ := fields_read constructs
  have hfooter : readEach (keyed (parseJson constructs (k + 3))) footerGroups =
      .ok (settingsJson.map fun kv => (kv.1.toList, kv.2)) := by
    have hs : keyed (parseJson constructs (k + 3)) (.key "scheduler".toList, fieldTokens schedulerFields) =
        .ok ("scheduler".toList, _) :=
          congrArg (· >>= fun v => pure ("scheduler".toList, v)) (parse_section constructs hscheduler (k + 1))
    have ha : keyed (parseJson constructs (k + 3)) (.key "admission".toList, fieldTokens admissionFields) =
        .ok ("admission".toList, _) :=
          congrArg (· >>= fun v => pure ("admission".toList, v)) (parse_section constructs hadmission (k + 1))
    have hv : keyed (parseJson constructs (k + 3)) (.key "server".toList, fieldTokens serverFields) =
        .ok ("server".toList, _) :=
          congrArg (· >>= fun v => pure ("server".toList, v)) (parse_section constructs hserver (k + 1))
    rw [footerGroups, readEach_cons hs, readEach_cons ha, readEach_cons hv]
    rfl
  have hwords : ∀ entries : List Json, mapping constructs (("backends".toList, .arr entries) ::
      settingsJson.map fun kv => (kv.1.toList, kv.2)) = .ok (docJson entries) := by
    intro entries
    exact mapping_words constructs (("backends", .arr entries) :: settingsJson) (by
      simp only [settingsJson, List.forall_mem_cons]
      exact ⟨by decide, by decide, by decide, by decide, List.forall_mem_nil _⟩)
  rw [hkeys, readEach, keyed, hdashes, hentries]
  cases readEach (fun b => do
    return entryJson b (← readEach (fun m => parseJson constructs k (names m)) b.models)) bs with
  | error e => rfl
  | ok entries =>
    simp only [ok_bind, pure, Except.pure]
    rw [hfooter]
    exact hwords entries

/-! ### Reading the text -/

/-- The value of a model name under its dash. -/
def nameValue (m : String) : Except Stop Json := tokens 8 m.toList >>= fun ts => parseJson constructs ts.length ts

/-- The lines of the text. -/
def docLines (bs : List Discovered) : List (List Char) := headerLines ++ bs.flatMap backendLines ++ footerLines

theorem generate_eq {bs : List Discovered} (hne : bs ≠ []) :
    generateDetectedConfig bs = Lines.unlines (docLines bs) := by
  obtain ⟨b, bs, rfl⟩ := List.exists_cons_of_ne_nil hne
  exact joinLines_nil _

/-- The characters of the lines are those of the fields and the names, and printing ASCII characters. -/
theorem docLines_forall {P : Char → Prop} (hP : ∀ c : Char, 0x20 ≤ c.toNat ∧ c.toNat ≤ 0x7E → P c)
    {bs : List Discovered}
    (hfields : ∀ b ∈ bs, ∀ s ∈ [b.id, b.url, b.tier, b.engine], ∀ c ∈ s.toList, P c)
    (hnames : ∀ b ∈ bs, ∀ m ∈ b.models, ∀ c ∈ m.toList, P c) : ∀ l ∈ docLines bs, ∀ c ∈ l, P c := by
  have hfixed : ∀ l ∈ headerLines ++ footerLines ++ ["  - id: ".toList, "    url: ".toList, "    tier: ".toList,
      "    engine: ".toList, "    models:".toList, "      - ".toList], ∀ c ∈ l, 0x20 ≤ c.toNat ∧ c.toNat ≤ 0x7E := by
    decide
  have hpart : ∀ {a : List Char} {s : String}, a ∈ headerLines ++ footerLines ++ ["  - id: ".toList, "    url: ".toList,
      "    tier: ".toList, "    engine: ".toList, "    models:".toList, "      - ".toList] → (∀ c ∈ s.toList, P c) →
      ∀ c ∈ a ++ s.toList, P c := by
    intro a s ha hs c hc
    rcases List.mem_append.1 hc with hc | hc
    · exact hP c (hfixed a ha c hc)
    · exact hs c hc
  intro l hl
  simp only [docLines, List.mem_append] at hl
  rcases hl with (hl | hl) | hl
  · exact fun c hc => hP c (hfixed l (by simp [hl]) c hc)
  · obtain ⟨b, hb, hl⟩ := List.mem_flatMap.1 hl
    have hfield := hfields b hb
    simp only [List.forall_mem_cons] at hfield
    obtain ⟨hid, hurl, htier, hengine, -⟩ := hfield
    simp only [backendLines, List.mem_append, List.mem_cons, List.not_mem_nil, or_false] at hl
    rcases hl with ((rfl | rfl | rfl | rfl) | hl) | rfl
    · exact hpart (by simp) hid
    · exact hpart (by simp) hurl
    · exact hpart (by simp) htier
    · exact hpart (by simp) hengine
    · split at hl
      · cases hl
      · rcases List.mem_cons.1 hl with rfl | hl
        · exact fun c hc => hP c (hfixed _ (by simp) c hc)
        · obtain ⟨m, hm, rfl⟩ := List.mem_map.1 hl
          exact hpart (by simp) (hnames b hb m hm)
    · exact List.forall_mem_nil _
  · exact fun c hc => hP c (hfixed l (by simp [hl]) c hc)

theorem length_flatMap_le {α β : Type} {f : α → List β} {x : α} {xs : List α} (hx : x ∈ xs) :
    (f x).length ≤ (xs.flatMap f).length := by
  rw [List.flatMap_def]
  exact (List.sublist_flatten_of_mem (List.mem_map_of_mem hx)).length_le

section Text

variable {bs : List Discovered} (hne : bs ≠ []) (hbs : ∀ b ∈ bs, FieldsReadBack L b)
  (hline : ∀ b ∈ bs, ∀ m ∈ b.models, IsLine m.toList)

include hbs

theorem fields_forall {P : Char → Prop}
    (hP : ∀ s : String, ReadsBack s.toList ∧ IsLine s.toList → ∀ c ∈ s.toList, P c) :
    ∀ b ∈ bs, ∀ s ∈ [b.id, b.url, b.tier, b.engine], ∀ c ∈ s.toList, P c := by
  intro b hb
  obtain ⟨hid, hurl, htier, hengine, -⟩ := hbs b hb
  simp only [List.forall_mem_cons]
  exact ⟨hP _ hid, hP _ hurl, hP _ htier, hP _ hengine, List.forall_mem_nil _⟩

include hne

omit hbs in
/-- A name with a character that is not printable makes the whole text refused. -/
theorem readYaml_unprintable {b : Discovered} {m : String} {c : Char} (hb : b ∈ bs) (hm : m ∈ b.models)
    (hc : c ∈ m.toList)
    (hprint : isPrintable c = false) : readYaml constructs (generateDetectedConfig bs) = .error .refused := by
  have hmem : c ∈ generateDetectedConfig bs := by
    rw [generate_eq hne, Lines.unlines, List.mem_flatMap]
    refine ⟨"      - ".toList ++ m.toList, ?_, List.mem_append_left _ (List.mem_append_right _ hc)⟩
    have hne' : b.models ≠ [] := List.ne_nil_of_mem hm
    refine List.mem_append_left _ (List.mem_append_right _ (List.mem_flatMap.2 ⟨b, hb, ?_⟩))
    unfold backendLines
    rw [if_neg hne']
    exact List.mem_append_left _ (List.mem_append_right _ (List.mem_cons_of_mem _ (List.mem_map_of_mem hm)))
  unfold readYaml BlockYaml.read
  rw [if_pos]
  rw [List.all_eq_false]
  exact ⟨c, hmem, by rw [hprint]; exact Bool.false_ne_true⟩

include hline

/-- A text of printable characters is read by its lines. -/
theorem readYaml_lines (hprint : ∀ b ∈ bs, ∀ m ∈ b.models, ∀ c ∈ m.toList, isPrintable c = true) :
    readYaml constructs (generateDetectedConfig bs) =
      (lineTokens (docLines bs ++ [[]]) >>= fun toks => parseJson constructs (toks.length + 1) toks) := by
  have hchars : ∀ l ∈ docLines bs, ∀ c ∈ l, isPrintable c = true ∧ c ≠ '\n' ∧ c ∉ otherBreaks := by
    refine docLines_forall (fun c hc => ?_) (fields_forall hbs fun s hs c hc => ⟨hs.1.printable c hc, hs.2 c hc⟩)
      fun b hb m hm c hc => ⟨hprint b hb m hm c hc, hline b hb m hm c hc⟩
    refine ⟨by simp [isPrintable, hc.1, hc.2], ?_, ?_⟩
    · rintro rfl; exact absurd hc (by decide)
    · intro hmem
      have hout : ∀ x ∈ otherBreaks, ¬(0x20 ≤ x.toNat ∧ x.toNat ≤ 0x7E) := by decide
      exact hout c hmem hc
  have hlines : Lines.lines (generateDetectedConfig bs) = (docLines bs, []) := by
    rw [generate_eq hne]
    exact Lines.lines_unlines fun l hl hn => (hchars l hl '\n' hn).2.1 rfl
  have hmem : ∀ c ∈ generateDetectedConfig bs, isPrintable c = true ∧ c ∉ otherBreaks := by
    intro c hc
    rw [generate_eq hne, Lines.unlines] at hc
    obtain ⟨l, hl, hc⟩ := List.mem_flatMap.1 hc
    rcases List.mem_append.1 hc with hc | hc
    · exact ⟨(hchars l hl c hc).1, (hchars l hl c hc).2.2⟩
    · rw [List.mem_singleton.1 hc]; exact ⟨rfl, by decide⟩
  have hall : ¬(generateDetectedConfig bs).all isPrintable = false := by
    rw [Bool.not_eq_false, List.all_eq_true]
    exact fun c hc => (hmem c hc).1
  have hbreaks : ¬(generateDetectedConfig bs).any (· ∈ otherBreaks) = true := by
    rw [List.any_eq_true]
    rintro ⟨c, hc, hb⟩
    exact (hmem c hc).2 (of_decide_eq_true hb)
  unfold readYaml BlockYaml.read
  rw [if_neg hall, if_neg hbreaks, hlines]
  rfl

/-- A text is read when its names are. -/
theorem tokens_of_readYaml {j : Json} (h : readYaml constructs (generateDetectedConfig bs) = .ok j) :
    ∀ b ∈ bs, ∀ m ∈ b.models, (∀ c ∈ m.toList, isPrintable c = true) ∧ ∃ ts, tokens 8 m.toList = .ok ts := by
  have hprint : ∀ b ∈ bs, ∀ m ∈ b.models, ∀ c ∈ m.toList, isPrintable c = true := by
    intro b hb m hm c hc
    by_contra hc'
    rw [readYaml_unprintable constructs hne hb hm hc (by simpa using hc')] at h
    cases h
  rw [readYaml_lines constructs hne hbs hline hprint] at h
  obtain ⟨toks, htoks, -⟩ := bind_ok_iff.1 h
  intro b hb m hm
  refine ⟨hprint b hb m hm, ?_⟩
  have hmem : "      - ".toList ++ m.toList ∈ docLines bs ++ [[]] := by
    refine List.mem_append_left _ (List.mem_append_left _ (List.mem_append_right _ (List.mem_flatMap.2 ⟨b, hb, ?_⟩)))
    unfold backendLines
    rw [if_neg (List.ne_nil_of_mem hm)]
    exact List.mem_append_left _ (List.mem_append_right _ (List.mem_cons_of_mem _ (List.mem_map_of_mem hm)))
  obtain ⟨ts, hts⟩ := lineTokens_mem htoks _ hmem
  have hstep : tokens 0 ("      - ".toList ++ m.toList) = (do return (6, .dash) :: (← tokens 8 m.toList)) := rfl
  rw [hstep] at hts
  obtain ⟨us, hus, -⟩ := bind_ok_iff.1 hts
  exact ⟨us, hus⟩

/-- The value of a text whose names have tokens is made of the names' values. -/
theorem readYaml_names (hprint : ∀ b ∈ bs, ∀ m ∈ b.models, ∀ c ∈ m.toList, isPrintable c = true)
    (htokens : ∀ b ∈ bs, ∀ m ∈ b.models, ∃ ts, tokens 8 m.toList = .ok ts) :
    readYaml constructs (generateDetectedConfig bs) = (do
      return docJson (← readEach (fun b => do
        return entryJson b (← readEach (nameValue constructs) b.models)) bs)) := by
  let names : String → List Placed := fun m => (tokens 8 m.toList).toOption.getD []
  have hnames : ∀ b ∈ bs, ∀ m ∈ b.models, tokens 8 m.toList = .ok (names m) := by
    intro b hb m hm
    obtain ⟨ts, hts⟩ := htokens b hb m hm
    show _ = Except.ok ((tokens 8 m.toList).toOption.getD [])
    rw [hts]; rfl
  have hcols : ∀ b ∈ bs, ∀ m ∈ b.models, ∀ t ∈ names m, 6 < t.1 := by
    intro b hb m hm t ht
    have hcol := tokens_cols (hnames b hb m hm) t ht
    omega
  have htoks : lineTokens (docLines bs ++ [[]]) = .ok (docTokens names bs) := by
    have hlast : lineTokens [[]] = .ok [] := by decide
    rw [docLines, lineTokens_append, lineTokens_append, lineTokens_append, header_tokens, backends_tokens hbs hnames,
      footer_tokens, hlast]
    simp [bind, Except.bind, pure, Except.pure, docTokens]
  have hlen : ∀ b ∈ bs, ∀ m ∈ b.models, (names m).length + 3 ≤ (docTokens names bs).length := by
    intro b hb m hm
    have hentry := length_flatMap_le (f := fun m => (6, Tok.dash) :: names m) hm
    have hdoc := length_flatMap_le (f := fun b => (2, Tok.dash) :: entryTokens names b) hb
    simp only [entryTokens, if_neg (List.ne_nil_of_mem hm), docTokens, List.length_cons,
      List.length_append] at hentry hdoc ⊢
    omega
  rw [readYaml_lines constructs hne hbs hline hprint, htoks, ok_bind]
  obtain ⟨k, hk⟩ : ∃ k, (docTokens names bs).length + 1 = k + 4 := ⟨(docTokens names bs).length - 3, by
    have hfooter : footerTokens.length = 25 := by decide
    simp only [docTokens, List.length_cons, List.length_append]
    omega⟩
  rw [hk, parse_doc constructs hne hbs hcols k]
  have hvalues : readEach (fun b => do
      return entryJson b (← readEach (fun m => parseJson constructs k (names m)) b.models)) bs =
      readEach (fun b => do return entryJson b (← readEach (nameValue constructs) b.models)) bs := by
    refine readEach_congr fun b hb => ?_
    have hsame : readEach (fun m => parseJson constructs k (names m)) b.models =
      readEach (nameValue constructs) b.models := by
      refine readEach_congr fun m hm => ?_
      have hfuel := hlen b hb m hm
      unfold nameValue
      rw [hnames b hb m hm, ok_bind]
      exact parse_fuel (by omega) (Nat.le_refl _)
    rw [hsame]
  rw [hvalues]

end Text

/-! ### The value of a name -/

/-- A name that is read back is its own value. -/
theorem nameValue_readsBack {m : String} (h : ReadsBack m.toList) : nameValue constructs m = .ok (.str m) := by
  unfold nameValue
  rw [tokens_plain h.plain, ok_bind]
  refine (parseJson_scalar constructs h.isText 0 8).trans ?_
  rw [String.ofList_toList]

/-- A name whose value is a text is longer than the text, or is the text and is read back. -/
theorem nameValue_text (hother : ∀ cs s, constructs cs ≠ .str s) {m s : String}
    (hprint : ∀ c ∈ m.toList, isPrintable c = true)
    (h : nameValue constructs m = .ok (.str s)) : s.toList.length < m.toList.length ∨ s = m ∧ ReadsBack m.toList := by
  obtain ⟨ts, hts, hparse⟩ := bind_ok_iff.1 h
  rcases parse_cases hparse with ⟨-, hnull⟩ | ⟨c, cs, rfl, hleaf⟩ | ⟨xs, harr⟩ | ⟨kvs, hmap⟩
  · rw [resolve, if_neg (by decide), if_pos (by decide)] at hnull
    cases hnull
  · obtain ⟨rfl, htext⟩ := eq_of_resolve hother hleaf
    rw [String.toList_ofList]
    rcases tokens_scalar hts with hlt | ⟨rfl, hplain⟩
    · exact .inl hlt
    · exact .inr ⟨String.ofList_toList, hplain, hprint, htext⟩
  · cases harr
  · obtain ⟨members, -, hmap⟩ := bind_ok_iff.1 hmap
    cases hmap

end Parse

/-! ## Loading the value -/

section Entries

variable {L : Loader}

/-- The members of a backend as the loader looks them up. -/
theorem members_entry (b : Discovered) (models : List Json) (hid : b.id ≠ "") (hurl : b.url ≠ "")
    (hengine : b.engine ≠ "")
    (i : Nat) : ∃ kvs, entryJson b models = .obj kvs ∧ idOf i kvs = .str b.id ∧ urlOf kvs = .str b.url ∧
      engineOf kvs = .str b.engine ∧ vramOf "total_vram_mb" kvs = .int 24000 ∧ vramOf "free_vram_mb" kvs = .int 24000 ∧
      (Dict.get? kvs "tier").getD (.str "small") = .str b.tier ∧
      modelsOf kvs = ((Dict.get? (modelsMember b models) "models").getD .null).orElse .null := by
  refine ⟨_, rfl, ?_, ?_, ?_, ?_, ?_, ?_, ?_⟩
  · show (Json.orElse (Json.orElse (.str b.id) _) _) = _
    have ht : (Json.str b.id).truthy = true := by simpa [Json.truthy] using hid
    rw [Json.orElse_of_truthy _ ht, Json.orElse_of_truthy _ ht]
  · show (Json.orElse (Json.orElse (.str b.url) _) _) = _
    have ht : (Json.str b.url).truthy = true := by simpa [Json.truthy] using hurl
    rw [Json.orElse_of_truthy _ ht, Json.orElse_of_truthy _ ht]
  · show (Json.orElse (Json.orElse (.str b.engine) _) _) = _
    have ht : (Json.str b.engine).truthy = true := by simpa [Json.truthy] using hengine
    rw [Json.orElse_of_truthy _ ht, Json.orElse_of_truthy _ ht]
  · unfold vramOf memberOf modelsMember
    split
    · rfl
    · rfl
  · unfold vramOf memberOf modelsMember
    split
    · rfl
    · rfl
  · rfl
  · unfold modelsOf memberOf modelsMember
    split
    · rfl
    · rfl

theorem ne_empty_of_readsBack {s : String} (h : ReadsBack s.toList) : s ≠ "" := by
  rintro rfl
  exact absurd h.plain.starts (by decide)

theorem isFloatable_small {n : Int} (h : 0 ≤ n ∧ n ≤ 1000000) : isFloatable (.int n) = true := by
  have hexp : floatOverflow = 2 ^ 970 * (2 ^ 54 - 1) := by
    rw [floatOverflow, mul_sub, ← pow_add, mul_one]
  have hone : (1 : ℚ) ≤ 2 ^ 970 := one_le_pow₀ one_le_two
  have hbig : (1000000 : ℚ) < floatOverflow := by
    rw [hexp]
    generalize (2 : ℚ) ^ 970 = x at hone
    norm_num
    linarith
  have hn : (0 : ℚ) ≤ n ∧ (n : ℚ) ≤ 1000000 := by exact_mod_cast h
  refine decide_eq_true ?_
  rw [abs_of_nonneg hn.1]
  exact lt_of_le_of_lt hn.2 hbig

theorem modelsMember_get (b : Discovered) (node : String → Json) :
    ((Dict.get? (modelsMember b (b.models.map node)) "models").getD .null).orElse .null =
      if b.models = [] then .null else .arr (b.models.map node) := by
  unfold modelsMember
  split
  · rfl
  · rename_i hne
    have ht : (Json.arr (b.models.map node)).truthy = true := by simpa [Json.truthy] using hne
    exact Json.orElse_of_truthy _ ht

/-- A backend is read when all its names are texts. -/
theorem returns_entry {b : Discovered} (hb : FieldsReadBack L b) (node : String → Json) (i : Nat) :
    Returns (parseBackend L (entryJson b (b.models.map node)) i) ↔ ∀ m ∈ b.models, isText (node m) = true := by
  obtain ⟨kvs, hkvs, hid, hurl, hengine, htotal, hfree, -, hmodels⟩ := members_entry b (b.models.map node)
    (ne_empty_of_readsBack hb.id.1) (ne_empty_of_readsBack hb.url.1) (ne_empty_of_readsBack hb.engine.1) i
  rw [modelsMember_get] at hmodels
  have hvalid : Returns (validateBackendUrl L (rstripSlash b.url) (.str b.id)) := by
    rw [hb.validated.1]; exact ⟨_, hb.validated.2⟩
  have htruthy : (Json.str b.url).truthy = true := by
    simpa [Json.truthy] using ne_empty_of_readsBack hb.url.1
  have hfloat : isFloatable (.int 24000) = true := isFloatable_small (by decide)
  rw [hkvs, returns_parseBackend_url L i hurl, hid, hurl, hengine, htotal, hfree, hmodels]
  constructor
  · rintro ⟨-, -, -, -, -, hjoin, -⟩ m hm
    rw [if_neg (List.ne_nil_of_mem hm)] at hjoin
    exact List.all_eq_true.1 hjoin _ (List.mem_map_of_mem hm)
  · intro h
    refine ⟨⟨trivial, htruthy⟩, rfl, ?_, ⟨hfloat, rfl⟩, ⟨hfloat, rfl⟩, ?_, hvalid⟩
    · split <;> rfl
    · split
      · rfl
      · refine List.all_eq_true.2 fun j hj => ?_
        obtain ⟨m, hm, rfl⟩ := List.mem_map.1 hj
        exact h m hm

/-- A backend that is read has the fields that were written. -/
theorem entry_backend {b : Discovered} (hb : FieldsReadBack L b) {models : List Json} {i : Nat} {b' : Backend}
    (h : parseBackend L (entryJson b models) i = .ok b') : b'.id = b.id ∧ b'.baseUrl = b.url ∧ b'.tier = b.tier := by
  obtain ⟨kvs, hkvs, hid, hurl, -, -, -, htier, -⟩ := members_entry b models
    (ne_empty_of_readsBack hb.id.1) (ne_empty_of_readsBack hb.url.1) (ne_empty_of_readsBack hb.engine.1) i
  rw [hkvs, parseBackend_obj, hid, hurl, htier] at h
  obtain ⟨-, -, h⟩ := bind_eq_ok.1 h
  obtain ⟨engine, -, h⟩ := bind_eq_ok.1 h
  obtain ⟨url, hstrip, h⟩ := bind_eq_ok.1 h
  obtain ⟨model, -, h⟩ := bind_eq_ok.1 h
  obtain ⟨total, -, h⟩ := bind_eq_ok.1 h
  obtain ⟨free, -, h⟩ := bind_eq_ok.1 h
  obtain ⟨names, -, h⟩ := bind_eq_ok.1 h
  obtain ⟨url', hvalid, h⟩ := bind_eq_ok.1 h
  cases hstrip
  rw [hb.validated.1, hb.validated.2] at hvalid
  cases hvalid
  cases h
  exact ⟨rfl, rfl, rfl⟩

theorem joinable_texts : ∀ names : List String, joinable (names.map Json.str) = .ok names
  | [] => rfl
  | name :: names => by
    rw [List.map_cons, joinable, joinable_texts names]
    rfl

theorem modelNames_entry {b : Discovered} (hb : FieldsReadBack L b) {node : String → Json} {f : String → String}
    (hf : ∀ m ∈ b.models, node m = .str (f m)) :
    modelNames (entryJson b (b.models.map node)) = .ok (b.models.map f) := by
  obtain ⟨kvs, hkvs, -, -, -, -, -, -, hmodels⟩ := members_entry b (b.models.map node)
    (ne_empty_of_readsBack hb.id.1) (ne_empty_of_readsBack hb.url.1) (ne_empty_of_readsBack hb.engine.1) 0
  rw [modelsMember_get] at hmodels
  unfold modelNames
  rw [hkvs, rawModels_obj, ok_bind, hmodels]
  split
  · rename_i hnil; rw [hnil]; rfl
  · have hmap : b.models.map node = (b.models.map f).map Json.str := by
      rw [List.map_map]
      exact List.map_congr_left hf
    show (joinable (b.models.map node)) = _
    rw [hmap, joinable_texts]

/-! ### The topology -/

/-- What the loader binds for backends with the names `f` makes of theirs. -/
def bindAll (f : String → String) (bs : List Discovered) (map : ModelMap) : ModelMap :=
  bs.foldl (fun map b => (b.models.map f).foldl (bindModel b.id) map) map

/-- The ids a name is bound to. -/
def boundTo (map : ModelMap) (name : String) : List String := (Dict.get? map.entries name).getD []

theorem boundTo_bindModel (id : String) (map : ModelMap) (name name' : String) :
    boundTo (bindModel id map name') name = if name' = name then boundTo map name ++ [id] else boundTo map name := by
  unfold boundTo bindModel
  rw [Dict.get?_set]
  split
  · rename_i h; rw [h]; rfl
  · rfl

theorem mem_boundTo_foldl {id id' : String} {name : String} : ∀ (names : List String) (map : ModelMap),
    id ∈ boundTo (names.foldl (bindModel id') map) name ↔ id ∈ boundTo map name ∨ id = id' ∧ name ∈ names
  | [], map => by simp
  | n :: names, map => by
    rw [List.foldl_cons, mem_boundTo_foldl names, boundTo_bindModel]
    by_cases hn : n = name
    · subst hn
      simp [or_assoc]
      tauto
    · simp [hn, Ne.symm hn]

/-- A name is bound to the backends that have it. -/
theorem mem_boundTo_bindAll (f : String → String) (id name : String) : ∀ (bs : List Discovered) (map : ModelMap),
    id ∈ boundTo (bindAll f bs map) name ↔ id ∈ boundTo map name ∨ ∃ b ∈ bs, b.id = id ∧ name ∈ b.models.map f
  | [], map => by simp [bindAll]
  | b :: bs, map => by
    rw [bindAll, List.foldl_cons]
    have ih := mem_boundTo_bindAll f id name bs ((b.models.map f).foldl (bindModel b.id) map)
    rw [bindAll] at ih
    rw [ih, mem_boundTo_foldl, List.exists_mem_cons_iff, or_assoc, eq_comm (a := id)]

/-- The entries of backends whose names are texts are loaded. -/
theorem addEntries_entries (node : String → Json) (f : String → String) :
    ∀ {bs : List Discovered} (_ : ∀ b ∈ bs, FieldsReadBack L b)
    (_ : ∀ b ∈ bs, ∀ m ∈ b.models, node m = .str (f m)) (i : Nat) (top : Topology), ∃ backends,
      addEntries L i (bs.map fun b => entryJson b (b.models.map node)) top =
        .ok ⟨top.backends ++ backends, bindAll f bs top.modelMap⟩ ∧
      backends.map (fun b => (b.id, b.baseUrl, b.tier)) = bs.map fun b => (b.id, b.url, b.tier)
  | [], _, _, i, top => ⟨[], by rw [List.append_nil]; rfl, rfl⟩
  | b :: bs, hbs, hf, i, top => by
    obtain ⟨hb, hbs⟩ := List.forall_mem_cons.1 hbs
    obtain ⟨hfb, hf⟩ := List.forall_mem_cons.1 hf
    obtain ⟨b', hb'⟩ := (returns_entry hb node i).2 fun m hm => by rw [hfb m hm]; rfl
    obtain ⟨hid, hurl, htier⟩ := entry_backend hb hb'
    have hone : addEntry L top i (entryJson b (b.models.map node)) =
        .ok ⟨top.backends ++ [b'], (b.models.map f).foldl (bindModel b.id) top.modelMap⟩ := by
      unfold addEntry
      rw [show entryAt i (entryJson b (b.models.map node)) = entryJson b (b.models.map node) from rfl, hb',
        modelNames_entry hb hfb,
        ← hid]
      rfl
    obtain ⟨backends, hrest, hfields⟩ := addEntries_entries node f hbs hf (i + 1)
      ⟨top.backends ++ [b'], (b.models.map f).foldl (bindModel b.id) top.modelMap⟩
    refine ⟨b' :: backends, ?_, ?_⟩
    · rw [List.map_cons, addEntries, hone, ok_bind, hrest, List.append_assoc]
      rfl
    · rw [List.map_cons, List.map_cons, hid, hurl, htier, hfields]

/-- Of entries that are loaded all names are texts. -/
theorem texts_of_addEntries {node : String → Json} :
    ∀ {bs : List Discovered} (_ : ∀ b ∈ bs, FieldsReadBack L b) {i : Nat}
    {top top' : Topology}, addEntries L i (bs.map fun b => entryJson b (b.models.map node)) top = .ok top' →
    ∀ b ∈ bs, ∀ m ∈ b.models, isText (node m) = true
  | [], _, _, _, _, _ => List.forall_mem_nil _
  | b :: bs, hbs, i, top, top', h => by
    obtain ⟨hb, hbs⟩ := List.forall_mem_cons.1 hbs
    rw [List.map_cons, addEntries] at h
    obtain ⟨top₁, hone, h⟩ := bind_eq_ok.1 h
    obtain ⟨b', hb', -⟩ := addEntry_backends L hone
    exact List.forall_mem_cons.2 ⟨(returns_entry hb node i).1 ⟨b', hb'⟩, texts_of_addEntries hbs h⟩

theorem loadTopology_doc {entries : List Json} (hne : entries ≠ []) :
    loadTopology L (docJson entries) = addEntries L 0 entries .empty := by
  have ht : (Json.arr entries).truthy = true := by simpa [Json.truthy] using hne
  have hraw : rawBackends L (("backends", .arr entries) :: settingsJson) = .ok entries := by
    refine rawBackends_some L ?_
    show entriesOf (Json.orElse (Json.orElse (.arr entries) _) _) = _
    rw [Json.orElse_of_truthy _ ht, Json.orElse_of_truthy _ ht]
    rfl
  show (rawBackends L (("backends", .arr entries) :: settingsJson) >>= fun raws => addEntries L 0 raws .empty) = _
  rw [hraw, ok_bind]

/-- The settings that are written are accepted. -/
theorem settings_accepted (U : Unicode) (entries : List Json) :
    SettingsRead U (("backends", .arr entries) :: settingsJson) ∧
      SettingsAccepted (("backends", .arr entries) :: settingsJson) := by
  refine ⟨⟨?_, ?_, ?_⟩, ?_, ?_⟩
  · simp only [List.forall_mem_cons]
    exact ⟨rfl, rfl, rfl, rfl, List.forall_mem_nil _⟩
  · simp only [List.forall_mem_cons]
    exact ⟨.inr ⟨isFloatable_small (n := 200) (by decide), rfl⟩, .inr ⟨isFloatable_small (n := 30000) (by decide), rfl⟩,
      .inr ⟨isFloatable_small (n := 95) (by decide), rfl⟩, .inr ⟨isFloatable_small (n := 300) (by decide), rfl⟩,
      List.forall_mem_nil _⟩
  · simp only [List.forall_mem_cons]
    exact ⟨.inr ⟨2048, rfl⟩, .inr ⟨8085, rfl⟩, .inl rfl, .inl rfl, List.forall_mem_nil _⟩
  · simp only [List.forall_mem_cons]
    exact ⟨fun _ => ⟨"nlms", by decide, rfl⟩, fun _ => ⟨"dual", by decide, rfl⟩, fun h => absurd h Bool.false_ne_true,
      fun _ => ⟨"empirical", by decide, rfl⟩, List.forall_mem_nil _⟩
  · simp only [List.forall_mem_cons]
    exact ⟨fun _ => rfl, fun h => absurd h Bool.false_ne_true, fun h => absurd h Bool.false_ne_true,
      List.forall_mem_nil _⟩

theorem loadConfigFile_doc {entries : List Json} (hne : entries ≠ []) {top : Topology}
    (h : addEntries L 0 entries .empty = .ok top) :
      ∃ config, loadConfigFile L false (docJson entries) = .ok ⟨top, config⟩ := by
  obtain ⟨hread, haccept⟩ := settings_accepted L.U entries
  obtain ⟨kw, hkw, hand⟩ := configKwargs_of_read hread
  obtain ⟨config, hconfig⟩ := (returns_ofKwargs hand).2 haccept
  refine ⟨config, ?_⟩
  unfold loadConfigFile
  dsimp only
  rw [show loadYaml false (docJson entries) = docJson entries from rfl, loadTopology_doc hne, h, ok_bind]
  unfold docJson
  rw [hkw]
  show ((DIOConfig.ofKwargs kw).mapError LoadExn.raised >>= _) = _
  rw [hconfig]
  rfl

/-- What is loaded is what was found: the backends with their fields, and every model name bound to the
backends that listed it. -/
def LoadsBack (bs : List Discovered) (top : Topology) : Prop :=
  top.backends.map (fun b => (b.id, b.baseUrl, b.tier)) = bs.map (fun b => (b.id, b.url, b.tier)) ∧
    ∀ name, (∃ b ∈ bs, name ∈ b.models) → ∀ id, id ∈ boundTo top.modelMap name ↔ ∃ b ∈ bs, b.id = id ∧ name ∈ b.models

/-- The written text is loaded, and loads back. -/
def InitLoads (L : Loader) (load : List Char → Option Json) (bs : List Discovered) : Prop :=
  ∃ parsed loaded, load (generateDetectedConfig bs) = some parsed ∧ loadConfigFile L false parsed = .ok loaded ∧
    LoadsBack bs loaded.topology

section RoundTrip

variable {constructs : List Char → Json} {load : List Char → Option Json} {bs : List Discovered}

/-- Names that are read back are loaded back. -/
theorem loads_of_readsBack (hload : ReadsBlockStyle constructs load) (hne : bs ≠ [])
    (hbs : ∀ b ∈ bs, FieldsReadBack L b)
    (hline : ∀ b ∈ bs, ∀ m ∈ b.models, IsLine m.toList) (hnames : ∀ b ∈ bs, ∀ m ∈ b.models, ReadsBack m.toList) :
    InitLoads L load bs := by
  have hentries : readEach (fun b => do return entryJson b (← readEach (nameValue constructs) b.models)) bs =
      .ok (bs.map fun b => entryJson b (b.models.map Json.str)) :=
    readEach_ok fun b hb => by rw [readEach_ok fun m hm => nameValue_readsBack constructs (hnames b hb m hm)]; rfl
  have hread : readYaml constructs (generateDetectedConfig bs) =
    .ok (docJson (bs.map fun b => entryJson b (b.models.map Json.str))) := by
    rw [readYaml_names constructs hne hbs hline (fun b hb m hm => (hnames b hb m hm).printable)
      fun b hb m hm => ⟨_, tokens_plain (hnames b hb m hm).plain 8⟩, hentries]
    rfl
  obtain ⟨backends, hadd, hfields⟩ := addEntries_entries Json.str id hbs (fun _ _ _ _ => rfl) 0 .empty
  obtain ⟨config, hconfig⟩ := loadConfigFile_doc (by simpa using hne) hadd
  refine ⟨_, _, hload.reads _ _ hread, hconfig, hfields, fun name _ id => ?_⟩
  rw [mem_boundTo_bindAll]
  simp [boundTo, Topology.empty]

/-- What is loaded back was read back: were a name read as another text, the longest such name would be bound
by a longer one. -/
theorem readsBack_of_loads (hload : ReadsBlockStyle constructs load) (hother : ∀ cs s, constructs cs ≠ .str s)
    (hne : bs ≠ [])
    (hbs : ∀ b ∈ bs, FieldsReadBack L b) (hline : ∀ b ∈ bs, ∀ m ∈ b.models, IsLine m.toList)
    (hbeyond : readYaml constructs (generateDetectedConfig bs) ≠ .error .beyond) (h : InitLoads L load bs) :
    ∀ b ∈ bs, ∀ m ∈ b.models, ReadsBack m.toList := by
  obtain ⟨parsed, loaded, hparsed, hloaded, -, hbound⟩ := h
  cases hread : readYaml constructs (generateDetectedConfig bs) with
  | error e =>
    cases e with
    | beyond => exact absurd hread hbeyond
    | refused => rw [hload.refuses _ hread] at hparsed; cases hparsed
  | ok j =>
    rw [hload.reads _ _ hread] at hparsed
    cases hparsed
    have htokens := tokens_of_readYaml constructs hne hbs hline hread
    rw [readYaml_names constructs hne hbs hline (fun b hb m hm => (htokens b hb m hm).1)
      fun b hb m hm => (htokens b hb m hm).2] at hread
    obtain ⟨entries, hentries, hj⟩ := bind_ok_iff.1 hread
    cases hj
    -- every name has a value, a text where the loader joins it
    let node : String → Json := fun m => (nameValue constructs m).toOption.getD .null
    have hnode : ∀ b ∈ bs, ∀ m ∈ b.models, nameValue constructs m = .ok (node m) := by
      intro b hb m hm
      obtain ⟨entry, hentry⟩ := readEach_mem hentries b hb
      obtain ⟨values, hvalues, -⟩ := bind_ok_iff.1 hentry
      obtain ⟨v, hv⟩ := readEach_mem hvalues m hm
      show _ = Except.ok ((nameValue constructs m).toOption.getD .null)
      rw [hv]; rfl
    have hmap : entries = bs.map fun b => entryJson b (b.models.map node) := by
      rw [readEach_ok fun b hb => by rw [readEach_ok (hnode b hb)]; rfl] at hentries
      exact (Except.ok.inj hentries).symm
    subst hmap
    have hne' : (bs.map fun b => entryJson b (b.models.map node)) ≠ [] := by simpa using hne
    obtain ⟨top, htop, hrest⟩ := bind_eq_ok.1 hloaded
    have hadd : addEntries L 0 (bs.map fun b => entryJson b (b.models.map node)) .empty = .ok top :=
      (loadTopology_doc hne').symm.trans htop
    have htext := texts_of_addEntries hbs hadd
    have hstr : ∀ m, ∃ s, isText (node m) = true → node m = .str s := by
      intro m
      cases node m with
      | str s => exact ⟨s, fun _ => rfl⟩
      | null | bool _ | int _ | float _ | arr _ | obj _ => exact ⟨"", fun h => absurd h Bool.false_ne_true⟩
    choose f hf using hstr
    obtain ⟨backends, hadd', -⟩ := addEntries_entries node f hbs (fun b hb m hm => hf m (htext b hb m hm)) 0 .empty
    rw [hadd] at hadd'
    cases hadd'
    obtain ⟨config, hconfig⟩ := loadConfigFile_doc hne' hadd
    rw [hconfig] at hloaded
    cases hloaded
    -- a name is bound by one that is read as it
    have hsource : ∀ b ∈ bs, ∀ m ∈ b.models, ∃ b' ∈ bs, ∃ m' ∈ b'.models, f m' = m := by
      intro b hb m hm
      have hmem := (hbound m ⟨b, hb, hm⟩ b.id).2 ⟨b, hb, rfl, hm⟩
      rw [mem_boundTo_bindAll] at hmem
      rcases hmem with hmem | ⟨b', hb', -, hm'⟩
      · cases hmem
      · obtain ⟨m', hm', hfm⟩ := List.mem_map.1 hm'
        exact ⟨b', hb', m', hm', hfm⟩
    let bound := (bs.flatMap fun b => b.models.flatMap String.toList).length
    have hle : ∀ b ∈ bs, ∀ m ∈ b.models, m.toList.length ≤ bound := fun b hb m hm =>
      le_trans (length_flatMap_le hm) (length_flatMap_le (f := fun b => b.models.flatMap String.toList) hb)
    have hall : ∀ n, ∀ b ∈ bs, ∀ m ∈ b.models, bound < m.toList.length + n → ReadsBack m.toList := by
      intro n
      induction n with
      | zero =>
        intro b hb m hm hlt
        have hlen := hle b hb m hm
        omega
      | succ n ih =>
        intro b hb m hm hlt
        obtain ⟨b', hb', m', hm', rfl⟩ := hsource b hb m hm
        have hvalue : nameValue constructs m' = .ok (.str (f m')) := by
          rw [hnode b' hb' m' hm', hf m' (htext b' hb' m' hm')]
        rcases nameValue_text constructs hother (htokens b' hb' m' hm').1 hvalue with hlonger | ⟨hsame, hback⟩
        · have hback := ih b' hb' m' hm' (by omega)
          have hsame := hvalue.symm.trans (nameValue_readsBack constructs hback)
          rw [Json.str.inj (Except.ok.inj hsame)]
          exact hback
        · rw [hsame]; exact hback
    intro b hb m hm
    exact hall (bound + 1) b hb m hm (by omega)

end RoundTrip

/-- The fields `detect_local_backends` gives to what it finds. -/
def detectable : List (String × String × String × String) :=
  [("ollama-local", "http://127.0.0.1:11434", "small", "ollama"),
    ("vllm-primary", "http://127.0.0.1:8000", "large", "vllm"),
    ("vllm-secondary", "http://127.0.0.1:8001", "large", "vllm"),
    ("sglang-local", "http://127.0.0.1:30000", "large", "sglang")]

/-- The fields of a backend that is found are read back, as long as its URL is split as such URLs are. -/
theorem detected_readsBack {b : Discovered} (hb : (b.id, b.url, b.tier, b.engine) ∈ detectable)
    (hurl : validateBackendUrl L b.url (.str b.id) = .ok b.url) : FieldsReadBack L b := by
  obtain ⟨id, url, tier, engine, models⟩ := b
  have hall : ∀ t ∈ detectable, (ReadsBack t.1.toList ∧ IsLine t.1.toList) ∧
    (ReadsBack t.2.1.toList ∧ IsLine t.2.1.toList) ∧
      (ReadsBack t.2.2.1.toList ∧ IsLine t.2.2.1.toList) ∧ (ReadsBack t.2.2.2.toList ∧ IsLine t.2.2.2.toList) ∧
      rstripSlash t.2.1 = t.2.1 := by
    decide
  obtain ⟨hid, hurl', htier, hengine, hslash⟩ := hall _ hb
  exact ⟨hid, hurl', htier, hengine, hslash, hurl⟩

end Entries

/-- A float as PyYAML constructs it. -/
def floatOf (cs : List Char) : Json := .float ((floatOfStr .ascii (String.ofList cs)).toOption.getD .nan)

/-- A `safe_load` that reads block style. -/
def loadBlock (text : List Char) : Option Json := (readYaml floatOf text).toOption

theorem reads_loadBlock : ReadsBlockStyle floatOf loadBlock := by
  constructor
  · intro text j h; unfold loadBlock; rw [h]; rfl
  · intro text h; unfold loadBlock; rw [h]; rfl

/-- Ollama on this machine. -/
def ollama (models : List String) : Discovered := ⟨"ollama-local", "http://127.0.0.1:11434", "small", "ollama", models⟩

theorem ollama_url : validateBackendUrl httpLoader "http://127.0.0.1:11434" (.str "ollama-local") =
    .ok "http://127.0.0.1:11434" :=
  rfl

theorem ollama_readsBack (models : List String) : ∀ b ∈ [ollama models], FieldsReadBack httpLoader b := by
  rw [List.forall_mem_singleton]
  exact detected_readsBack (List.mem_cons_self ..) ollama_url

end Dio.Config
