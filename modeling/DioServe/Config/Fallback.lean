/-
Reading a configuration without PyYAML: the line-based parser (`_minimal_yaml_parse`) and the guard
after it (`_load_yaml`). The parser keeps `key: value` lines and forgets their nesting; the guard asks
it, not the text, whether there are backends.
-/
import DioServe.Config.File
import DioServe.Py.Text

namespace Dio.Config

open Data Py

/-! ## The parser -/

section Fallback

/- The interpreter's tables, and the one behind `str.isdigit`. -/
variable (U : Unicode) (isDigit : Char → Bool)

/-- The value of a line. -/
def minimalValue (val : List Char) : Except PyErr Json :=
  if val.head? = some '[' ∧ val.getLast? = some ']' then
    let items := (((val.drop 1).dropLast).splitOn ',').map fun v => stripSet ['\'', '"'] (stripChars U v)
    .ok (.arr ((items.filter (· ≠ [])).map fun i => .str (String.ofList i)))
  else
    let lowered := String.ofList (U.lower val)
    let digits := (val.erase '.').erase '-'
    if lowered = "true" ∨ lowered = "yes" then .ok (.bool true)
    else if lowered = "false" ∨ lowered = "no" then .ok (.bool false)
    else if digits ≠ [] ∧ digits.all isDigit then
      if '.' ∈ val then Json.float <$> floatOfStr U (String.ofList val) else Json.int <$> intOfStr U (String.ofList val)
    else if val = [] then .ok .null
    else .ok (.str (String.ofList (stripSet ['\'', '"'] val)))

/-- The key and the value of a line that has them. -/
def minimalEntry (line : List Char) : Option (String × List Char) :=
  let line := stripChars U line
  if line = [] ∨ line.head? = some '#' ∨ ':' ∉ line then none
  else
    let p := partition ':' line
    some (String.ofList (stripChars U p.1), stripChars U p.2)

def minimalLines : List (List Char) → Obj → Except PyErr Obj
  | [], result => .ok result
  | line :: lines, result =>
    match minimalEntry U line with
    | none => minimalLines lines result
    | some (key, val) => do minimalLines lines (Dict.set result key (← minimalValue U isDigit val))

/-- `_minimal_yaml_parse`. -/
def minimalYamlParse (text : String) : Except PyErr Obj := minimalLines U isDigit (splitlines text.toList) []

/-- `_load_yaml` where PyYAML cannot be imported. -/
def loadYamlFallback (text : String) : Except LoadExn Obj := do
  let parsed ← (minimalYamlParse U isDigit text).mapError LoadExn.raised
  if Dict.contains parsed "backends" then return parsed
  else .error (.configError ("PyYAML is required to read this config; the built-in fallback parser " ++
    "cannot represent nested backend lists. Install it with: pip install pyyaml"))

end Fallback

/-! ## Texts with a list of backends -/

/-- A blank line or a comment. -/
def Blank (line : List Char) : Prop :=
  (∀ c ∈ line, c = ' ') ∨ ∃ pad rest, line = pad ++ '#' :: rest ∧ ∀ c ∈ pad, c = ' '

/-- The line `backends:` and, indented below it, a list with an entry `- key: value`. -/
structure NestedBackends (lines : List (List Char)) : Prop where
  exists_entry : ∃ pre gap indent key value post, lines = pre ++ "backends:".toList ::
      (gap ++ (indent ++ '-' :: ' ' :: (key ++ ':' :: ' ' :: value)) :: post) ∧
    (∀ l ∈ gap, Blank l) ∧ indent ≠ [] ∧ (∀ c ∈ indent, c = ' ') ∧ key ≠ [] ∧ value ≠ []

/-- Every line for backends has the key alone. -/
def OnlyBare (U : Unicode) (lines : List (List Char)) : Prop :=
  ∀ line ∈ lines, ∀ key val, minimalEntry U line = some (key, val) → key = "backends" ∨ key = "backend" → val = []

section Lines

variable {U : Unicode} {isDigit : Char → Bool}

/-- The line `backends:` has that key and no value. -/
theorem minimalEntry_backends (hU : U.SpacesOnAscii) : minimalEntry U "backends:".toList = some ("backends", []) := by
  have hkeep : ∀ cs : List Char, (∀ c ∈ cs, c.toNat < 128 ∧ Unicode.ascii.isSpace c = false) →
    stripChars U cs = cs := by
    intro cs hcs
    have hno : ∀ c ∈ cs, U.isSpace c = false := fun c hc => (hU c (hcs c hc).1).trans (hcs c hc).2
    exact stripChars_self U (fun c hc => hno c (List.mem_of_mem_head? hc)) fun c hc => hno c (List.mem_of_getLast? hc)
  unfold minimalEntry
  rw [hkeep "backends:".toList (by decide)]
  have hpart : partition ':' "backends:".toList = ("backends".toList, []) := by decide
  dsimp only
  rw [if_neg (by decide), hpart, hkeep "backends".toList (by decide), hkeep [] (by decide)]
  decide

/-- A key that is bound stays bound. -/
theorem contains_minimalLines {key : String} : ∀ {lines : List (List Char)} {result parsed : Obj},
    minimalLines U isDigit lines result = .ok parsed → Dict.contains result key = true → Dict.contains parsed key = true
  | [], _, _, h, hkey => by cases h; exact hkey
  | line :: lines, result, parsed, h, hkey => by
    unfold minimalLines at h
    split at h
    · exact contains_minimalLines h hkey
    · obtain ⟨v, -, h⟩ := bind_eq_ok.1 h
      apply contains_minimalLines h
      simp only [Dict.contains, Dict.get?_set]
      split
      · rfl
      · exact hkey

/-- A line with a key binds it. -/
theorem contains_of_line {key : String} {val : List Char} {post : List (List Char)} {line : List Char}
    (hline : minimalEntry U line = some (key, val)) : ∀ {pre : List (List Char)} {result parsed : Obj},
    minimalLines U isDigit (pre ++ line :: post) result = .ok parsed → Dict.contains parsed key = true
  | [], _, _, h => by
    rw [List.nil_append, minimalLines, hline] at h
    obtain ⟨v, -, h⟩ := bind_eq_ok.1 h
    apply contains_minimalLines h
    simp [Dict.contains]
  | l :: pre, _, _, h => by
    rw [List.cons_append, minimalLines] at h
    split at h
    · exact contains_of_line hline h
    · obtain ⟨v, -, h⟩ := bind_eq_ok.1 h
      exact contains_of_line hline h

/-- The key is not bound to a value. -/
def Unset (parsed : Obj) (key : String) : Prop := ∀ v, Dict.get? parsed key = some v → v = .null

/-- Bare lines bind nothing but null. -/
theorem unset_minimalLines (hlower : U.lower [] = []) : ∀ {lines : List (List Char)} {result parsed : Obj},
    minimalLines U isDigit lines result = .ok parsed → OnlyBare U lines →
      (∀ key, key = "backends" ∨ key = "backend" → Unset result key) →
      ∀ key, key = "backends" ∨ key = "backend" → Unset parsed key
  | [], _, _, h, _, hset => by cases h; exact hset
  | line :: lines, result, parsed, h, hbare, hset => by
    have hrest : OnlyBare U lines := fun l hl => hbare l (List.mem_cons_of_mem _ hl)
    unfold minimalLines at h
    split at h
    · exact unset_minimalLines hlower h hrest hset
    · rename_i key val hentry
      obtain ⟨v, hv, h⟩ := bind_eq_ok.1 h
      refine unset_minimalLines hlower h hrest fun key' hkey' w hw => ?_
      rw [Dict.get?_set] at hw
      split at hw
      · rename_i heq
        subst heq
        obtain rfl := hbare line (List.mem_cons_self ..) _ _ hentry hkey'
        simp [minimalValue, hlower] at hv
        cases hw; exact hv.symm
      · exact hset key' hkey' w hw

end Lines

/-- Whatever list of backends a text has below the line `backends:`, the fallback does not refuse it, and
if no line sets `backends` or `backend` to a value what it returns is loaded as no backends. -/
theorem fallback_never_refuses (U : Unicode) (hU : U.SpacesOnAscii) (hlower : U.lower [] = []) (isDigit : Char → Bool)
    {text : String} (h : NestedBackends (splitlines text.toList)) :
    (∀ message, loadYamlFallback U isDigit text ≠ .error (.configError message)) ∧
      ∀ parsed, loadYamlFallback U isDigit text = .ok parsed → OnlyBare U (splitlines text.toList) →
        ∀ L : Loader, loadTopology L (.obj parsed) = .ok .empty := by
  obtain ⟨pre, gap, indent, key, value, post, hlines, -⟩ := h
  have hbound : ∀ parsed, minimalYamlParse U isDigit text = .ok parsed → Dict.contains parsed "backends" = true := by
    intro parsed hparsed
    unfold minimalYamlParse at hparsed
    rw [hlines] at hparsed
    exact contains_of_line (minimalEntry_backends hU) hparsed
  unfold loadYamlFallback
  cases hparse : minimalYamlParse U isDigit text with
  | error e => exact ⟨fun message h => (by cases h), fun parsed h => (by cases h)⟩
  | ok parsed =>
    have hload : (do
        let parsed ← (Except.ok parsed : Except PyErr Obj).mapError LoadExn.raised
        if Dict.contains parsed "backends" then return parsed
        else .error (.configError ("PyYAML is required to read this config; the built-in fallback parser " ++
          "cannot represent nested backend lists. Install it with: pip install pyyaml")) : Except LoadExn Obj) =
        .ok parsed := if_pos (hbound parsed hparse)
    rw [hload]
    refine ⟨fun message h => (by cases h), fun parsed' h hbare L => ?_⟩
    cases h
    have hunset := unset_minimalLines hlower hparse hbare fun _ _ v hv => by cases hv
    have hnull : ∀ key, key = "backends" ∨ key = "backend" → (Dict.get? parsed key).getD .null = .null := by
      intro key hkey
      cases hget : Dict.get? parsed key with
      | none => rfl
      | some v => exact hunset key hkey v hget
    unfold loadTopology rawBackends
    dsimp only
    rw [hnull _ (.inl rfl), hnull _ (.inr rfl)]
    rfl

/-- A configuration with one backend. -/
def oneEntry : String := "backends:\n  - id: gpu0\n    url: http://a\n"

theorem nestedBackends_oneEntry : NestedBackends (splitlines oneEntry.toList) :=
  ⟨[], [], "  ".toList, "id".toList, "gpu0".toList, ["    url: http://a".toList], by decide, List.forall_mem_nil _,
    by decide, by decide, by decide, by decide⟩

theorem fallback_never_refuses_one :
    ¬∃ message, loadYamlFallback .ascii Char.isDigit oneEntry = .error (.configError message) := by
  rintro ⟨message, h⟩
  exact (fallback_never_refuses .ascii (fun _ _ => rfl) rfl Char.isDigit nestedBackends_oneEntry).1 message h

/-- It is loaded without its backend. -/
theorem backends_dropped : NestedBackends (splitlines oneEntry.toList) ∧
    ∃ parsed, loadYamlFallback .ascii Char.isDigit oneEntry = .ok parsed ∧
      ∀ L : Loader, loadTopology L (.obj parsed) = .ok .empty :=
  ⟨nestedBackends_oneEntry, [("backends", .null), ("- id", .str "gpu0"), ("url", .str "http://a")], rfl, fun _ => rfl⟩

end Dio.Config
