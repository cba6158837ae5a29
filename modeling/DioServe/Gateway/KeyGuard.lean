/-
The request guard of the gateway (`_request_guard`): the shared key of the admin plane and, when asked
for, of the data plane, and the cap on a declared body size. A key is compared with
`hmac.compare_digest`, which takes ASCII texts only.
-/
import DioServe.Gateway.Handlers
import DioServe.Py.Text

namespace Dio.Gateway

open Data Py

/-! ## The guard -/

/-- What the guard reads of the configuration. -/
structure GuardConfig where
  U : Unicode
  apiKey : Option String
  protectDebug : Bool
  dataPlaneAuth : Bool
  bodySizeCapBytes : Int

/-- What the guard reads of a request; headers are Latin-1 texts. -/
structure GuardedRequest where
  method : String
  path : String
  authorization : Option String
  xDioApiKey : Option String
  contentLength : Option String

/-- What becomes of a request. -/
inductive GuardOutcome
  | callNext
  | reply (status : Nat) (content : Json) (headers : Dict String String)

/-- `hmac.compare_digest` of two texts. -/
def compareDigest (a b : String) : Except PyErr Bool :=
  if IsAscii a ∧ IsAscii b then .ok (decide (a = b)) else .error .typeError

/-- `s.startswith(t)`. -/
def startsWith (t s : String) : Bool := t.toList.isPrefixOf s.toList

/-- `_is_admin_path`. -/
def isAdminPath (path : String) : Bool := path = "/debug" || startsWith "/debug/" path

/-- `_is_data_plane_path`. -/
def isDataPlanePath (path : String) : Bool := startsWith "/v1/" path || startsWith "/api/" path

/-- `_supplied_api_key`. -/
def suppliedApiKey (U : Unicode) (req : GuardedRequest) : Option String :=
  let auth := partition ' ' (req.authorization.getD "").toList
  let token := strip U (String.ofList auth.2)
  if lower U (String.ofList auth.1) = "bearer" ∧ token ≠ "" then some token
  else (req.xDioApiKey.map (strip U)).filter (· ≠ "")

section Guard

variable (C : GuardConfig) (req : GuardedRequest)

/-- `bool(key and ...)`: an empty key is none. -/
def configuredKey : Option String := C.apiKey.filter (· ≠ "")

def guardAdmin : Bool := (configuredKey C).isSome && C.protectDebug && isAdminPath req.path

def guardData : Bool := (configuredKey C).isSome && C.dataPlaneAuth && isDataPlanePath req.path

/-- The 401 of a guarded path. -/
def unauthorized : GuardOutcome :=
  let scope := if guardAdmin C req then "admin" else "inference"
  .reply 401 (.obj [("error", .obj [("message", .str (scope ++ " API key required")), ("type", .str "dio_unauthorized"),
    ("code", .str "unauthorized")])]) [("WWW-Authenticate", "Bearer")]

/-- `not supplied or not hmac.compare_digest(supplied, key)`. -/
def keyRefused (key : String) : Except PyErr Bool :=
  match suppliedApiKey C.U req with
  | none => .ok true
  | some supplied => do return !(← compareDigest supplied key)

/-- `declared.isdigit()` of a Latin-1 text. -/
def isDigitText (s : String) : Bool := s ≠ "" && s.toList.all fun c => c.isDigit || c = '²' || c = '³' || c = '¹'

/-- The declared size, where it is read and exceeds the cap. -/
def oversized : Except PyErr (Option Int) :=
  match req.contentLength with
  | some declared =>
    if C.bodySizeCapBytes ≠ 0 ∧ req.method ∈ ["POST", "PUT", "PATCH"] ∧ isDigitText declared then do
      let size ← intOfStr C.U declared
      return if size > C.bodySizeCapBytes then some size else none
    else .ok none
  | none => .ok none

/-- The second half of the guard: the body size. -/
def sizeGuard : Except PyErr GuardOutcome := do
  match ← oversized C req with
  | some size =>
    let cap := C.bodySizeCapBytes
    let message := s!"request body is {size} bytes, which exceeds the configured cap of {cap} bytes"
    if isDataPlanePath req.path then
      return .reply 413 (errorBody message "invalid_request_error" (some "request_too_large")) []
    else return .reply 413 (.obj [("error", .str message)]) []
  | none => return .callNext

/-- `_request_guard`. -/
def requestGuard : Except PyErr GuardOutcome :=
  match configuredKey C with
  | some key =>
    if guardAdmin C req || guardData C req then do
      if ← keyRefused C req key then return unauthorized C req else sizeGuard C req
    else sizeGuard C req
  | none => sizeGuard C req

end Guard

/-! ## What the guard does -/

section Outcome

variable {C : GuardConfig} {req : GuardedRequest}

/-- The size check answers no 401, and raises no TypeError. -/
theorem sizeGuard_ne (C : GuardConfig) (req : GuardedRequest) :
    sizeGuard C req ≠ .ok (unauthorized C req) ∧ sizeGuard C req ≠ .error .typeError := by
  have hread : ∀ s, intOfStr C.U s ≠ .error .typeError := by
    intro s h
    unfold intOfStr at h
    dsimp only at h
    split at h <;> cases h
  have hover : oversized C req ≠ .error .typeError := by
    intro h
    unfold oversized at h
    split at h
    · split at h
      · rename_i declared _ _
        cases hint : intOfStr C.U declared with
        | ok size => rw [hint] at h; cases h
        | error e =>
          rw [hint] at h
          cases h
          exact hread _ hint
      · cases h
    · cases h
  unfold sizeGuard
  cases hsize : oversized C req with
  | error e =>
    rw [hsize] at hover
    refine ⟨fun h => (by cases h), fun h => ?_⟩
    have he : (Except.error e : Except PyErr GuardOutcome) = .error .typeError := h
    cases he
    exact hover rfl
  | ok o =>
    rw [ok_bind]
    cases o with
    | none => exact ⟨fun h => (by cases h), fun h => (by cases h)⟩
    | some size =>
      dsimp only
      split
      · refine ⟨fun h => ?_, fun h => (by cases h)⟩
        unfold unauthorized at h
        cases h
      · refine ⟨fun h => ?_, fun h => (by cases h)⟩
        unfold unauthorized at h
        cases h

/-- A path that asks for no key is left to the size check. -/
theorem requestGuard_open (h : (guardAdmin C req || guardData C req) = false) :
    requestGuard C req = sizeGuard C req := by
  unfold requestGuard
  split
  · rw [h]; rfl
  · rfl

/-- A guarded path, by the key supplied. -/
theorem requestGuard_guarded {k : String} (hk : C.apiKey = some k) (hne : k ≠ "")
    (hguarded : (guardAdmin C req || guardData C req) = true) : requestGuard C req =
      match suppliedApiKey C.U req with
      | none => .ok (unauthorized C req)
      | some supplied =>
        if IsAscii supplied ∧ IsAscii k then if supplied = k then sizeGuard C req else .ok (unauthorized C req)
        else .error .typeError := by
  have hkey : configuredKey C = some k := by
    unfold configuredKey
    rw [hk]
    exact Option.filter_eq_some_iff.2 ⟨rfl, decide_eq_true hne⟩
  unfold requestGuard keyRefused
  rw [hkey, hguarded]
  cases suppliedApiKey C.U req with
  | none => rfl
  | some supplied =>
    dsimp only
    unfold compareDigest
    by_cases hascii : IsAscii supplied ∧ IsAscii k
    · rw [if_pos hascii, if_pos hascii]
      by_cases heq : supplied = k
      · simp only [heq, decide_true]; rfl
      · simp only [heq, decide_false]; rfl
    · rw [if_neg hascii, if_neg hascii]; rfl

end Outcome

/-- On a guarded path the guard passes the request on or answers 401, and passes it exactly when the
supplied key is the configured one, exactly when no key is supplied or both are ASCII. What is passed on
goes to the size check. -/
theorem key_guard_total_iff (C : GuardConfig) (req : GuardedRequest) {k : String} (hk : C.apiKey = some k)
    (hne : k ≠ "")
    (hguarded : (guardAdmin C req || guardData C req) = true) :
    ((requestGuard C req = sizeGuard C req ∨ requestGuard C req = .ok (unauthorized C req)) ∧
        (requestGuard C req = sizeGuard C req ↔ suppliedApiKey C.U req = some k)) ↔
      ∀ supplied, suppliedApiKey C.U req = some supplied → IsAscii supplied ∧ IsAscii k := by
  obtain ⟨hno401, hnoType⟩ := sizeGuard_ne C req
  rw [requestGuard_guarded hk hne hguarded]
  cases hs : suppliedApiKey C.U req with
  | none =>
    refine iff_of_true ⟨.inr rfl, ?_⟩ fun _ h => by cases h
    exact iff_of_false (fun h => hno401 h.symm) (Option.some_ne_none k).symm
  | some supplied =>
    simp only [Option.some.injEq, forall_eq']
    by_cases hascii : IsAscii supplied ∧ IsAscii k
    · rw [if_pos hascii]
      refine iff_of_true ?_ hascii
      by_cases heq : supplied = k
      · rw [if_pos heq]; exact ⟨.inl rfl, iff_of_true rfl heq⟩
      · rw [if_neg heq]; exact ⟨.inr rfl, iff_of_false (fun h => hno401 h.symm) heq⟩
    · rw [if_neg hascii]
      refine iff_of_false ?_ hascii
      rintro ⟨h | h, -⟩
      · exact hnoType h.symm
      · cases h

/-- A gateway with the key `s3cret`. -/
def keyed : GuardConfig := ⟨.ascii, some "s3cret", true, false, 8388608⟩

/-- A request to the admin plane with an `Authorization` header. -/
def debugWith (authorization : Option String) : GuardedRequest := ⟨"GET", "/debug/metrics", authorization, none, none⟩

theorem key_guard_total_s3cret : requestGuard keyed (debugWith (some "Bearer s3cret")) = .ok .callNext := by
  have hkey : suppliedApiKey .ascii (debugWith (some "Bearer s3cret")) = some "s3cret" := by decide
  have hpass := (key_guard_total_iff keyed (debugWith (some "Bearer s3cret")) rfl (by decide) rfl).2
    (fun supplied h => by cases hkey.symm.trans h; decide)
  exact (hpass.2.2 hkey).trans rfl

/-- An accent in the supplied key and the guard raises. -/
theorem key_guard_raises : (guardAdmin keyed (debugWith (some "Bearer é"))) = true ∧
    requestGuard keyed (debugWith (some "Bearer é")) = .error .typeError := ⟨rfl, rfl⟩

end Dio.Gateway
