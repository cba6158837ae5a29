/-
The control plane of the gateway: the pool and the scheduler that register its backends, the admin endpoints that
change them (`/debug/backends`, `/debug/chaos/vram`, `/debug/reset_stats`) behind the request guard, and the rounds of
the health probes.
-/
import DioServe.Config.File
import DioServe.Gateway.KeyGuard
import DioServe.Scheduler.Projection

namespace Dio.Gateway

open Data Py Effect Scheduler Config

variable {K : Type}

/-! ## The plane -/

/-- What the gateway knows of its backends: the pool, and the scheduler's workers. -/
structure Plane (K : Type) where
  pool : BackendPool
  sched : State K

/-- What the control plane is configured with; `num` reads a float as the scheduler's number. -/
structure PlaneConfig (K : Type) where
  cfg : Cfg K
  loader : Loader
  guard : GuardConfig
  num : PyFloat → K

/-- The response to a request, or the exception that the framework answers with a 500. -/
inductive AdminReply
  | json (status : Nat) (content : Json)
  | raised (e : PyErr)

namespace BackendPool

/-- `backends[id].free_vram_mb = free`, when the id is known. -/
def setFreeVram (p : BackendPool) (id : String) (free : PyFloat) : BackendPool where
  backends := p.backends.map fun b => if b.id = id then { b with freeVramMb := free } else b
  nodup := by
    have hids : (p.backends.map fun b => if b.id = id then { b with freeVramMb := free } else b).map Backend.id =
        p.backends.map Backend.id := by
      rw [List.map_map]
      refine List.map_congr_left fun b _ => ?_
      simp only [Function.comp_apply]
      split <;> rfl
    rw [hids]
    exact p.nodup

end BackendPool

section Exec

variable [Field K] [LinearOrder K] (P : PlaneConfig K)

/-- `scheduler.register(b.id, tier=..., total_vram_mb=..., free_vram_mb=...)`. -/
def registerBackend (s : State K) (b : Backend) : State K :=
  register P.cfg s b.id b.tier (P.num b.totalVramMb) (some (P.num b.freeVramMb))

/-- `DIOGateway(backends)`: every backend of the pool is registered. -/
def Plane.init (backends : List Backend) : Plane K :=
  ⟨.ofList backends, (BackendPool.ofList backends).backends.foldl (registerBackend P) .init⟩

/-- `add_backend`. -/
def Plane.addBackend (p : Plane K) (b : Backend) : Plane K := ⟨p.pool.add b, registerBackend P p.sched b⟩

/-! ## The admin endpoints -/

/-- `validate_backend_url` of a value that need not be a text. -/
def vetUrl (baseUrl id : Json) : Except ParseExn String :=
  match baseUrl with
  | .str s => validateBackendUrl P.loader s id
  | _ => .error (.valueError ("backend " ++ repr P.loader.U id ++ ": base_url must be a non-empty URL"))

/-- `Backend(...)` of a registration. -/
def backendOf (body : Obj) : Except ParseExn Backend := do
  let id := (Dict.get? body "id").getD .null
  let baseUrl := (Dict.get? body "base_url").getD .null
  let total := (Dict.get? body "total_vram_mb").getD (.int 24000)
  let totalVramMb ← asFloat P.loader total
  let freeVramMb ← asFloat P.loader ((Dict.get? body "free_vram_mb").getD total)
  let url ← vetUrl P baseUrl id
  return {
    id := asText P.loader id
    baseUrl := url
    tier := asText P.loader ((Dict.get? body "tier").getD (.str "small"))
    model := match (Dict.get? body "model").getD .null with
      | .null => none
      | m => some (asText P.loader m)
    totalVramMb := totalVramMb
    freeVramMb := freeVramMb }

/-- A 200 with its content, which raises when it cannot be encoded. -/
def okReply (content : Json) : AdminReply := if content.finite then .json 200 content else .raised .valueError

def badRequest (message : String) : AdminReply :=
  .json 400 (.obj [("error", .obj [("message", .str message), ("type", .str "dio_bad_request")])])

/-- A key of a dictionary: lists and objects are none. -/
def hashable : Json → Bool
  | .arr _ | .obj _ => false
  | _ => true

/-- `add_backend_http`; `none` is a body that is no JSON. -/
def Plane.addBackendHttp (p : Plane K) (body : Option Json) : AdminReply × Plane K :=
  match body with
  | none => (badRequest "body must be JSON", p)
  | some (.obj kvs) =>
    let id := (Dict.get? kvs "id").getD .null
    if id.truthy && ((Dict.get? kvs "base_url").getD .null).truthy then
      match backendOf P kvs with
      | .ok b =>
        if hashable id then (okReply (.obj [("status", .str "ok"), ("id", id)]), p.addBackend P b)
        else (.raised .typeError, p)
      | .error (.valueError message) => (badRequest message, p)
      | .error (.raised .valueError) => (badRequest PyErr.valueError.name, p)
      | .error (.raised .typeError) => (badRequest PyErr.typeError.name, p)
      -- `except (ValueError, TypeError)` lets an `OverflowError` through
      | .error (.raised e) => (.raised e, p)
    else (badRequest "body must contain 'id' and 'base_url'", p)
  | some _ => (badRequest "body must contain 'id' and 'base_url'", p)

/-- `scheduler.set_vram`, and the pool's own copy. -/
def Plane.setFreeVram (p : Plane K) (id : String) (free : PyFloat) : Plane K :=
  ⟨p.pool.setFreeVram id free, Scheduler.setVram p.sched id (P.num free)⟩

/-- `chaos_vram`; a body that is no JSON raises. -/
def Plane.chaosVram (p : Plane K) (body : Option Json) : AdminReply × Plane K :=
  match body with
  | none => (.raised .valueError, p)
  | some (.obj kvs) =>
    let wid := (Dict.get? kvs "worker_id").getD .null
    match ((Dict.get? kvs "free_vram_mb").getD (.int 1500)).toFloat P.loader.U with
    | .error e => (.raised e, p)
    | .ok free =>
      if wid.truthy = false then (.json 400 (errorBody "worker_id required" "invalid_request_error" none), p)
      else if hashable wid = false then (.raised .typeError, p)
      else (okReply (.obj [("status", .str "ok"), ("worker_id", wid), ("free_vram_mb", .float free)]),
        p.setFreeVram P (asText P.loader wid) free)
  | some _ => (.raised .attributeError, p)

/-- The endpoints that change the plane. -/
inductive AdminRoute
  | backends | chaosVram | resetStats

def adminRoute (req : GuardedRequest) : Option AdminRoute :=
  if req.method = "POST" then
    if req.path = "/debug/backends" then some .backends
    else if req.path = "/debug/chaos/vram" then some .chaosVram
    else if req.path = "/debug/reset_stats" then some .resetStats
    else none
  else none

def Plane.admin (p : Plane K) (route : AdminRoute) (body : Option Json) : AdminReply × Plane K :=
  match route with
  | .backends => p.addBackendHttp P body
  | .chaosVram => p.chaosVram P body
  | .resetStats => (okReply (.obj [("status", .str "ok")]), ⟨p.pool, Scheduler.resetStats p.sched⟩)

/-- A request through the guard: what it does to the plane. -/
def Plane.http (p : Plane K) (req : GuardedRequest) (body : Option Json) : Plane K :=
  match requestGuard P.guard req, adminRoute req with
  | .ok .callNext, some route => (p.admin P route body).2
  | _, _ => p

variable [FloorRing K]

/-- What changes the plane: the program that embeds the gateway, a request, and the scheduler's other callers. -/
inductive PlaneMove (K : Type)
  | addBackend (b : Backend)
  | request (req : GuardedRequest) (body : Option Json)
  | scheduler (op : Op K)

def PlaneMove.exec (m : PlaneMove K) (p : Plane K) : Plane K :=
  match m with
  | .addBackend b => p.addBackend P b
  | .request req body => p.http P req body
  | .scheduler op => ⟨p.pool, (op.exec P.cfg ⟨p.sched, []⟩).sched⟩

end Exec

/-! ## Registration over HTTP -/

section Registration

variable {P : PlaneConfig K}

/-- The body of a registration that is accepted, as `b`. -/
structure Accepts (P : PlaneConfig K) (body : Obj) (b : Backend) : Prop where
  id : ((Dict.get? body "id").getD .null).truthy = true
  baseUrl : ((Dict.get? body "base_url").getD .null).truthy = true
  key : hashable ((Dict.get? body "id").getD .null) = true
  backend : backendOf P body = .ok b

variable [Field K]

/-- A registration is accepted, or refused with the plane left as it is. -/
theorem addBackendHttp_cases (p : Plane K) (body : Option Json) :
    (∃ kvs b, body = some (.obj kvs) ∧ Accepts P kvs b ∧ (p.addBackendHttp P body).2 = p.addBackend P b) ∨
      ((∀ kvs b, body = some (.obj kvs) → ¬ Accepts P kvs b) ∧ (p.addBackendHttp P body).2 = p ∧
        ∀ content, (p.addBackendHttp P body).1 ≠ .json 200 content) := by
  have hrefused : ∀ (message : String) (content : Json), badRequest message ≠ .json 200 content := by
    intro message content h
    cases h
  cases body with
  | none => exact .inr ⟨fun _ _ h => (by cases h), rfl, hrefused _⟩
  | some j =>
    cases j with
    | obj kvs =>
      unfold Plane.addBackendHttp
      dsimp only
      split
      · rename_i hmembers
        rw [Bool.and_eq_true] at hmembers
        split
        · rename_i b hb
          split
          · rename_i hkey
            exact .inl ⟨kvs, b, rfl, ⟨hmembers.1, hmembers.2, hkey, hb⟩, rfl⟩
          · rename_i hkey
            refine .inr ⟨?_, rfl, fun _ h => (by cases h)⟩
            rintro _ _ ⟨⟩ hacc
            exact hkey hacc.key
        all_goals
          rename_i herror
          refine .inr ⟨?_, rfl, ?_⟩
          · rintro _ _ ⟨⟩ hacc
            rw [hacc.backend] at herror
            cases herror
          · first | exact hrefused _ | exact fun _ h => by cases h
      · rename_i hmembers
        refine .inr ⟨?_, rfl, hrefused _⟩
        rintro _ _ ⟨⟩ hacc
        exact hmembers (by rw [hacc.id, hacc.baseUrl]; rfl)
    | _ => exact .inr ⟨fun _ _ h => (by cases h), rfl, hrefused _⟩

end Registration

/-! ## Pool and scheduler in step -/

namespace BackendPool

/-- A backend is put where its id is, or at the end. -/
theorem map_id_put (b : Backend) : ∀ bs : List Backend, (put b bs).map Backend.id =
    if b.id ∈ bs.map Backend.id then bs.map Backend.id else bs.map Backend.id ++ [b.id]
  | [] => by simp [put]
  | b' :: bs => by
    have ih := map_id_put b bs
    unfold put
    by_cases h : b'.id = b.id
    · simp [h]
    · have hne : ¬ b.id = b'.id := fun he => h he.symm
      rw [if_neg h, List.map_cons, ih]
      by_cases hmem : b.id ∈ bs.map Backend.id
      · simp [hmem]
      · rw [if_neg hmem, List.map_cons, if_neg (by simp [hne, hmem])]
        rfl

theorem ids_add (p : BackendPool) (b : Backend) :
    (p.add b).ids = if b.id ∈ p.ids then p.ids else p.ids ++ [b.id] := map_id_put b p.backends

theorem ids_setFreeVram (p : BackendPool) (id : String) (free : PyFloat) : (p.setFreeVram id free).ids = p.ids := by
  show ((p.backends.map fun b => if b.id = id then { b with freeVramMb := free } else b).map Backend.id) = _
  rw [List.map_map]
  refine List.map_congr_left fun b _ => ?_
  simp only [Function.comp_apply]
  split <;> rfl

theorem get?_of_mem {p : BackendPool} {b : Backend} (h : b ∈ p.backends) : p.get? b.id = some b := by
  have hfind : ∀ {bs : List Backend}, (bs.map Backend.id).Nodup → b ∈ bs → bs.find? (·.id = b.id) = some b := by
    intro bs
    induction bs with
    | nil => exact fun _ hb => by cases hb
    | cons b' bs ih =>
      intro hn hb
      rw [List.map_cons, List.nodup_cons] at hn
      rcases List.mem_cons.1 hb with rfl | hb
      · simp
      · have hne : b'.id ≠ b.id := fun he => hn.1 (he ▸ List.mem_map_of_mem hb)
        rw [List.find?_cons_of_neg (by simpa using hne)]
        exact ih hn.2 hb
  exact hfind p.nodup h

theorem get?_isSome_iff {p : BackendPool} {id : String} : (p.get? id).isSome ↔ id ∈ p.ids := by
  rw [← not_iff_not, Option.not_isSome_iff_eq_none, get?_eq_none_iff]

end BackendPool

section InStep

variable {P : PlaneConfig K}

/-- The backend's URL is one that was vetted. -/
def Vetted (P : PlaneConfig K) (b : Backend) : Prop := ∃ baseUrl id, vetUrl P baseUrl id = .ok b.baseUrl

/-- The scheduler's workers are the pool's backends, in one order, and every URL in the pool was vetted. -/
structure Plane.InStep (P : PlaneConfig K) (p : Plane K) : Prop where
  keys : Dict.keys p.sched.predictors = p.pool.ids
  vetted : ∀ b ∈ p.pool.backends, Vetted P b

/-- A registration that is read has a vetted URL. -/
theorem vetted_backendOf {body : Obj} {b : Backend} (h : backendOf P body = .ok b) : Vetted P b := by
  unfold backendOf at h
  obtain ⟨total, -, h⟩ := bind_eq_ok.1 h
  obtain ⟨free, -, h⟩ := bind_eq_ok.1 h
  obtain ⟨url, hurl, h⟩ := bind_eq_ok.1 h
  cases h
  exact ⟨_, _, hurl⟩

theorem Plane.InStep.setFreeVram {p : Plane K} (h : p.InStep P) (id : String) (free : PyFloat) :
    (p.setFreeVram P id free).InStep P where
  keys := by
    show Dict.keys (Scheduler.setVram p.sched id (P.num free)).predictors = (p.pool.setFreeVram id free).ids
    rw [BackendPool.ids_setFreeVram, ← h.keys]
    exact State.onNlms_keys p.sched id _
  vetted := by
    intro b hb
    obtain ⟨b', hb', rfl⟩ := List.mem_map.1 hb
    obtain ⟨raw, i, hurl⟩ := h.vetted b' hb'
    refine ⟨raw, i, ?_⟩
    split <;> exact hurl

variable [Field K]

theorem keys_registerBackend (s : State K) (b : Backend) : Dict.keys (registerBackend P s b).predictors =
    if b.id ∈ Dict.keys s.predictors then Dict.keys s.predictors else Dict.keys s.predictors ++ [b.id] := by
  show Dict.keys (Dict.set s.predictors b.id _) = _
  split
  · rename_i h
    exact Dict.keys_set_of_mem _ h
  · rename_i h
    exact Dict.keys_set_of_not_mem _ h

theorem Plane.InStep.addBackend {p : Plane K} (h : p.InStep P) {b : Backend} (hb : Vetted P b) :
    (p.addBackend P b).InStep P where
  keys := by
    show Dict.keys (registerBackend P p.sched b).predictors = (p.pool.add b).ids
    rw [keys_registerBackend, BackendPool.ids_add, h.keys]
  vetted := by
    intro b' hb'
    rcases BackendPool.mem_put hb' with rfl | hb'
    · exact hb
    · exact h.vetted b' hb'

theorem Plane.InStep.init {backends : List Backend} (hb : ∀ b ∈ backends, Vetted P b) :
    (Plane.init P backends).InStep P where
  keys := by
    have hfold : ∀ (bs : List Backend) (s : State K), (Dict.keys s.predictors ++ bs.map Backend.id).Nodup →
        Dict.keys (bs.foldl (registerBackend P) s).predictors = Dict.keys s.predictors ++ bs.map Backend.id := by
      intro bs
      induction bs with
      | nil => simp
      | cons b bs ih =>
        intro s hnodup
        have hfresh : b.id ∉ Dict.keys s.predictors := by
          intro hmem
          exact List.disjoint_of_nodup_append hnodup hmem (by simp)
        have hkeys : Dict.keys (registerBackend P s b).predictors = Dict.keys s.predictors ++ [b.id] := by
          rw [keys_registerBackend, if_neg hfresh]
        rw [List.foldl_cons, ih _ (by rw [hkeys]; simpa using hnodup), hkeys]
        simp
    exact hfold _ .init (BackendPool.ofList backends).nodup
  vetted := fun b h => hb b (BackendPool.mem_ofList h)

/-- What a request can do to the plane. -/
inductive RequestCase (P : PlaneConfig K) (p : Plane K) : Plane K → Prop
  | unchanged : RequestCase P p p
  | added (b : Backend) (hb : Vetted P b) : RequestCase P p (p.addBackend P b)
  | vram (id : String) (free : PyFloat) : RequestCase P p (p.setFreeVram P id free)
  | reset : RequestCase P p ⟨p.pool, Scheduler.resetStats p.sched⟩

theorem chaosVram_case (p : Plane K) (body : Option Json) : RequestCase P p (p.chaosVram P body).2 := by
  unfold Plane.chaosVram
  split
  · exact .unchanged
  · dsimp only
    split
    · exact .unchanged
    · split
      · exact .unchanged
      · split
        · exact .unchanged
        · exact .vram _ _
  · exact .unchanged

theorem http_case (p : Plane K) (req : GuardedRequest) (body : Option Json) : RequestCase P p (p.http P req body) := by
  unfold Plane.http
  split
  · rename_i route _ _
    cases route with
    | backends =>
      show RequestCase P p (p.addBackendHttp P body).2
      rcases addBackendHttp_cases p body with ⟨kvs, b, -, hacc, hp⟩ | ⟨-, hp, -⟩
      · rw [hp]
        exact .added b (vetted_backendOf hacc.backend)
      · rw [hp]
        exact .unchanged
    | chaosVram => exact chaosVram_case p body
    | resetStats => exact .reset
  · exact .unchanged

variable [LinearOrder K]

variable [FloorRing K]

theorem Plane.InStep.exec {p : Plane K} (h : p.InStep P) {m : PlaneMove K}
    (hm : ∀ b, m = .addBackend b → Vetted P b) : (m.exec P p).InStep P := by
  cases m with
  | addBackend b => exact h.addBackend (hm b rfl)
  | request req body =>
    show (p.http P req body).InStep P
    have hcase := http_case (P := P) p req body
    generalize p.http P req body = q at hcase ⊢
    cases hcase with
    | unchanged => exact h
    | added b hb => exact h.addBackend hb
    | vram id free => exact h.setFreeVram id free
    | reset => exact ⟨h.keys, h.vetted⟩
  | scheduler op => exact ⟨(exec_keys P.cfg _ op).trans h.keys, h.vetted⟩

/-- No backend leaves the pool. -/
theorem ids_exec (p : Plane K) (m : PlaneMove K) : ∀ id ∈ p.pool.ids, id ∈ (m.exec P p).pool.ids := by
  have hadd : ∀ b, ∀ id ∈ p.pool.ids, id ∈ (p.addBackend P b).pool.ids := by
    intro b id hid
    show id ∈ (p.pool.add b).ids
    rw [BackendPool.ids_add]
    split
    · exact hid
    · simp [hid]
  intro id hid
  cases m with
  | addBackend b => exact hadd b id hid
  | request req body =>
    show id ∈ (p.http P req body).pool.ids
    have hcase := http_case (P := P) p req body
    generalize p.http P req body = q at hcase ⊢
    cases hcase with
    | unchanged => exact hid
    | added b hb => exact hadd b id hid
    | vram v free =>
      show id ∈ (p.pool.setFreeVram v free).ids
      rwa [BackendPool.ids_setFreeVram]
    | reset => exact hid
  | scheduler op => exact hid

/-- The backends that the embedding program adds were vetted when they were made. -/
def PlaneMove.Made (P : PlaneConfig K) (m : PlaneMove K) : Prop := ∀ b, m = .addBackend b → Vetted P b

theorem InStep.played {backends : List Backend} (hb : ∀ b ∈ backends, Vetted P b) {ms : List (PlaneMove K)}
    (hms : ∀ m ∈ ms, PlaneMove.Made P m) : (Trace.play (PlaneMove.exec P) (Plane.init P backends) ms).InStep P :=
  have hmade : Trace.Allowed (PlaneMove.exec P) (fun _ m => PlaneMove.Made P m) (Plane.init P backends) ms :=
    Trace.allowed_iff_forall.2 hms
  Trace.play_invariant (fun _ _ hp hm => hp.exec hm) (.init hb) hmade

/-- In every state a gateway reaches, however registrations, admin requests, probes, scrapes and traffic interleave, a
worker that `pick` returns has a backend in the pool, with a vetted URL, and it has one ever after. -/
theorem picked_backend_known {backends : List Backend} (hb : ∀ b ∈ backends, Vetted P b) {ms ms' : List (PlaneMove K)}
    (hms : ∀ m ∈ ms ++ ms', PlaneMove.Made P m) {a : PickArgs} {w : String} {d : RoutingDecision K} {s : State K}
    (hpick : Scheduler.pick P.cfg (Trace.play (PlaneMove.exec P) (Plane.init P backends) ms).sched a = (.ok (w, d), s)) :
    ∃ b, (Trace.play (PlaneMove.exec P) (Plane.init P backends) (ms ++ ms')).pool.get? w = some b ∧ b.id = w ∧
      Vetted P b := by
  have hids : ∀ (ms : List (PlaneMove K)) (p : Plane K), ∀ id ∈ p.pool.ids,
      id ∈ (Trace.play (PlaneMove.exec P) p ms).pool.ids := by
    intro ms p id hid
    have hany : Trace.Allowed (PlaneMove.exec P) (fun _ _ => True) p ms := Trace.allowed_iff_forall.2 fun _ _ => trivial
    exact Trace.play_invariant (P := fun q : Plane K => id ∈ q.pool.ids) (fun q m hq _ => ids_exec q m id hq) hid hany
  have hthen := InStep.played hb fun m hm => hms m (List.mem_append_left ms' hm)
  have hever := InStep.played hb hms
  have hhealthy := (mem_eligible_iff.1 (pick_mem hpick)).1
  have hmem : w ∈ (Trace.play (PlaneMove.exec P) (Plane.init P backends) ms).pool.ids := by
    rw [← hthen.keys]
    exact mem_keys_of_healthy hhealthy
  have hmem' : w ∈ (Trace.play (PlaneMove.exec P) (Plane.init P backends) (ms ++ ms')).pool.ids := by
    rw [Trace.play_append]
    exact hids ms' _ w hmem
  obtain ⟨b, hb'⟩ := Option.isSome_iff_exists.1 (BackendPool.get?_isSome_iff.2 hmem')
  exact ⟨b, hb', (BackendPool.get?_some hb').2, hever.vetted b (BackendPool.get?_some hb').1⟩

end InStep

/-! ## What a registration changes -/

section Registered

variable [Field K] [LinearOrder K] {P : PlaneConfig K}

namespace BackendPool

theorem find?_put (b : Backend) (id : String) : ∀ bs : List Backend,
    (put b bs).find? (·.id = id) = if b.id = id then some b else bs.find? (·.id = id)
  | [] => by
    by_cases h : b.id = id
    · simp [put, h]
    · simp [put, h]
  | b' :: bs => by
    have ih := find?_put b id bs
    unfold put
    by_cases h : b'.id = b.id
    · rw [if_pos h, List.find?_cons, List.find?_cons]
      by_cases hid : b.id = id
      · simp [hid]
      · simp [hid, h]
    · rw [if_neg h, List.find?_cons, List.find?_cons, ih]
      by_cases hid' : b'.id = id
      · have hid : ¬ b.id = id := fun he => h (hid'.trans he.symm)
        simp [hid, hid']
      · simp [hid']

theorem get?_add (p : BackendPool) (b : Backend) (id : String) :
    (p.add b).get? id = if b.id = id then some b else p.get? id := find?_put b id p.backends

end BackendPool

/-- The plane `q` is `p` with the backend `b` registered afresh, and nothing else changed. -/
structure Registered (P : PlaneConfig K) (p q : Plane K) (b : Backend) : Prop where
  pool : q.pool.get? b.id = some b
  worker : (q.sched.view b.id).worker =
    some (newWorker P.cfg b.tier (P.num b.totalVramMb) (some (P.num b.freeVramMb)))
  otherBackends : ∀ id, id ≠ b.id → q.pool.get? id = p.pool.get? id
  otherWorkers : ∀ id, id ≠ b.id → q.sched.view id = p.sched.view id
  rest : q.sched = { p.sched with predictors := q.sched.predictors }

theorem registered_addBackend (p : Plane K) (b : Backend) : Registered P p (p.addBackend P b) b := by
  let r : Registration K := ⟨b.id, b.tier, P.num b.totalVramMb, some (P.num b.freeVramMb)⟩
  have hview : ∀ id, (p.addBackend P b).sched.view id = if r.id = id
      then (Happening.registered r.tier r.totalVramMb r.freeVramMb).exec P.cfg (p.sched.view id) else p.sched.view id :=
    fun id => view_register p.sched r id
  refine ⟨?_, ?_, fun id hid => ?_, fun id hid => ?_, rfl⟩
  · show (p.pool.add b).get? b.id = some b
    rw [BackendPool.get?_add, if_pos rfl]
  · refine (congrArg View.worker (hview b.id)).trans ?_
    rw [if_pos rfl]; rfl
  · show (p.pool.add b).get? id = _
    rw [BackendPool.get?_add, if_neg (Ne.symm hid)]
  · exact (hview id).trans (if_neg (Ne.symm hid))

/-- `POST /debug/backends` is all or nothing: exactly a body that is accepted registers its backend, with a vetted URL
and a fresh worker, and touches no other backend or worker; any other leaves the plane as it is, and is not a 200. -/
theorem registration_atomic (P : PlaneConfig K) (p : Plane K) (body : Option Json) :
    (∃ kvs b, body = some (.obj kvs) ∧ Accepts P kvs b ∧ Vetted P b ∧ Registered P p (p.addBackendHttp P body).2 b) ∨
      ((∀ kvs b, body = some (.obj kvs) → ¬ Accepts P kvs b) ∧ (p.addBackendHttp P body).2 = p ∧
        ∀ content, (p.addBackendHttp P body).1 ≠ .json 200 content) := by
  rcases addBackendHttp_cases p body with ⟨kvs, b, hbody, hacc, hp⟩ | hrefused
  · refine .inl ⟨kvs, b, hbody, hacc, vetted_backendOf hacc.backend, ?_⟩
    rw [hp]
    exact registered_addBackend p b
  · exact .inr hrefused

end Registered

/-! ## The guard -/

section Guarded

/-- The request is to the admin plane, and supplies the configured key. -/
def authorized (C : GuardConfig) (req : GuardedRequest) : Bool :=
  isAdminPath req.path && suppliedApiKey C.U req = C.apiKey

/-- A move that the guard lets through to the plane: all but unauthorized requests are. -/
def PlaneMove.authorized (C : GuardConfig) : PlaneMove K → Bool
  | .request req _ => Gateway.authorized C req
  | _ => true

/-- The endpoints that change the plane are on the admin plane. -/
theorem isAdminPath_of_route {req : GuardedRequest} {route : AdminRoute} (h : adminRoute req = some route) :
    isAdminPath req.path = true := by
  unfold adminRoute at h
  split at h
  · split at h
    · rename_i hpath
      rw [hpath]; decide
    · split at h
      · rename_i hpath
        rw [hpath]; decide
      · split at h
        · rename_i hpath
          rw [hpath]; decide
        · cases h
  · cases h

variable [Field K] {P : PlaneConfig K}

/-- Without the key, no request changes the plane. -/
theorem http_unauthorized {k : String} (hk : P.guard.apiKey = some k) (hne : k ≠ "") (hprotect : P.guard.protectDebug = true)
    (p : Plane K) {req : GuardedRequest} (hreq : authorized P.guard req = false) (body : Option Json) :
    p.http P req body = p := by
  unfold Plane.http
  split
  · rename_i route hpass hroute
    have hpath := isAdminPath_of_route hroute
    have hguarded : (guardAdmin P.guard req || guardData P.guard req) = true := by
      have hkey : (configuredKey P.guard).isSome = true := by
        unfold configuredKey
        rw [hk]
        simp [hne]
      simp [guardAdmin, hkey, hprotect, hpath]
    have hsupplied : suppliedApiKey P.guard.U req ≠ some k := by
      intro hs
      rw [authorized, hpath, hs, hk] at hreq
      simp at hreq
    rw [requestGuard_guarded hk hne hguarded] at hpass
    -- a wrong key is answered 401, or raises
    split at hpass
    · cases hpass
    · rename_i supplied hs
      split at hpass
      · split at hpass
        · rename_i heq
          rw [heq] at hs
          exact absurd hs hsupplied
        · cases hpass
      · cases hpass
  · rfl

variable [LinearOrder K] [FloorRing K]

/-- With a key configured, requests that do not supply it are invisible to the control plane: whatever else happens
meanwhile, a run leads where it leads without them. -/
theorem unauthorized_invisible {k : String} (hk : P.guard.apiKey = some k) (hne : k ≠ "")
    (hprotect : P.guard.protectDebug = true) : ∀ (ms : List (PlaneMove K)) (p : Plane K),
    Trace.play (PlaneMove.exec P) p ms = Trace.play (PlaneMove.exec P) p (ms.filter (PlaneMove.authorized P.guard))
  | [], _ => rfl
  | m :: ms, p => by
    have ih := unauthorized_invisible hk hne hprotect ms
    by_cases hm : m.authorized P.guard = true
    · rw [List.filter_cons_of_pos hm]
      exact ih _
    · rw [List.filter_cons_of_neg hm, ← ih]
      have hsame : m.exec P p = p := by
        cases m with
        | addBackend b => exact absurd rfl hm
        | request req body => exact http_unauthorized hk hne hprotect p (Bool.not_eq_true _ ▸ hm) body
        | scheduler op => exact absurd rfl hm
      show Trace.play _ (m.exec P p) ms = _
      rw [hsame]

end Guarded

/-! ## The health probes -/

section Health

/-- `probe_health`: the health path or the model listing answers, and not with a server error. `get` is the status of
a GET with its headers, none when it raises. -/
def probeHealth (get : String → Dict String String → Option Nat) (b : Backend) : Bool :=
  [b.healthUrl, b.modelsUrl].any fun url => (get url b.authHeaders).any (· < 500)

/-- One round of `_health_loop`. -/
def Plane.healthRound (get : String → Dict String String → Option Nat) (p : Plane K) : Plane K :=
  ⟨p.pool, p.pool.backends.foldl (fun s b => setHealthy s b.id (probeHealth get b)) p.sched⟩

/-- The workers in rotation are those whose view is healthy. -/
theorem healthyIds_eq {s : State K} (h : (Dict.keys s.predictors).Nodup) :
    s.healthyIds = (Dict.keys s.predictors).filter fun w => (s.view w).worker.any (·.nlms.healthy) := by
  have hmem : ∀ p ∈ s.predictors, (s.view p.1).worker = some p.2 := fun p hp => Dict.get?_of_mem_of_nodup h hp
  unfold State.healthyIds Dict.keys
  rw [List.filter_map]
  congr 1
  refine List.filter_congr fun p hp => ?_
  rw [Function.comp_apply, hmem p hp]
  rfl

variable [Field K] [LinearOrder K]

/-- A round tells each worker what its backend's probe said. -/
theorem healthy_foldl {ok : Backend → Bool} {w : String} : ∀ {bs : List Backend} {s : State K}, (bs.map Backend.id).Nodup →
    ((bs.foldl (fun s b => setHealthy s b.id (ok b)) s).view w).worker.map (·.nlms.healthy) =
      match bs.find? (·.id = w) with
      | some b => (s.view w).worker.map fun _ => ok b
      | none => (s.view w).worker.map (·.nlms.healthy)
  | [], _, _ => rfl
  | b :: bs, s, hn => by
    rw [List.map_cons, List.nodup_cons] at hn
    have hview : (setHealthy s b.id (ok b)).view w = if b.id = w
        then (Happening.health (ok b)).exec (Cfg.default fun _ => 0) (s.view w) else s.view w :=
      view_setHealthy s b.id w (ok b)
    rw [List.foldl_cons, healthy_foldl hn.2, List.find?_cons]
    by_cases h : b.id = w
    · have hnone : bs.find? (·.id = w) = none := by
        rw [List.find?_eq_none]
        intro b' hb' hid
        exact hn.1 (List.mem_map.2 ⟨b', hb', (of_decide_eq_true hid).trans h.symm⟩)
      rw [hnone, hview, if_pos h]
      simp only [h, decide_true]
      show ((s.view w).worker.map _).map _ = _
      rw [Option.map_map]
      rfl
    · simp only [h, decide_false]
      rw [hview, if_neg h]

variable [FloorRing K] {P : PlaneConfig K}

/-- After a round of the probes, in any state a gateway reaches, the workers in rotation are exactly the backends that
answered, in the order of the pool, and a request is admitted to one of them. -/
theorem rotation_after_round {backends : List Backend} (hb : ∀ b ∈ backends, Vetted P b) {ms : List (PlaneMove K)}
    (hms : ∀ m ∈ ms, PlaneMove.Made P m) (get : String → Dict String String → Option Nat) {p : Plane K}
    (hp : Trace.play (PlaneMove.exec P) (Plane.init P backends) ms = p) :
    (p.healthRound get).sched.healthyIds = (p.pool.backends.filter (probeHealth get)).map Backend.id ∧
      ∀ (a : PickArgs) (w : String) (d : RoutingDecision K) (s : State K),
        Scheduler.pick P.cfg (p.healthRound get).sched a = (.ok (w, d), s) →
          ∃ b ∈ p.pool.backends, b.id = w ∧ probeHealth get b = true := by
  have hstep : p.InStep P := hp ▸ InStep.played hb hms
  have hnodup : (p.pool.backends.map Backend.id).Nodup := p.pool.nodup
  have hkeys : Dict.keys (p.healthRound get).sched.predictors = p.pool.backends.map Backend.id := by
    have hfold : ∀ (bs : List Backend) (s : State K),
        Dict.keys (bs.foldl (fun s b => setHealthy s b.id (probeHealth get b)) s).predictors = Dict.keys s.predictors := by
      intro bs
      induction bs with
      | nil => exact fun _ => rfl
      | cons b bs ih => exact fun s => (ih _).trans (frame_setHealthy s b.id _).keys
    exact (hfold _ p.sched).trans hstep.keys
  have hhealthy : (p.healthRound get).sched.healthyIds = (p.pool.backends.filter (probeHealth get)).map Backend.id := by
    rw [healthyIds_eq (by rw [hkeys]; exact hnodup), hkeys, List.filter_map]
    congr 1
    refine List.filter_congr fun b hbmem => ?_
    have hfind : p.pool.backends.find? (·.id = b.id) = some b := BackendPool.get?_of_mem hbmem
    have hregistered : b.id ∈ Dict.keys p.sched.predictors := by
      rw [hstep.keys]
      exact List.mem_map_of_mem hbmem
    obtain ⟨x, hx⟩ := Dict.exists_get?_of_mem_keys hregistered
    have hprobe : ((p.healthRound get).sched.view b.id).worker.map (·.nlms.healthy) = _ := healthy_foldl hnodup
    rw [hfind] at hprobe
    have hworker : (p.sched.view b.id).worker = some x := hx
    rw [hworker] at hprobe
    obtain ⟨y, hy, hyes⟩ := Option.map_eq_some_iff.1 hprobe
    show ((p.healthRound get).sched.view b.id).worker.any _ = _
    have hround : ((p.healthRound get).sched.view b.id).worker = some y := hy
    rw [hround]
    exact hyes
  refine ⟨hhealthy, fun a w d s hpick => ?_⟩
  have hmem := (mem_eligible_iff.1 (pick_mem hpick)).1
  rw [hhealthy] at hmem
  obtain ⟨b, hb', rfl⟩ := List.mem_map.1 hmem
  exact ⟨b, List.mem_of_mem_filter hb', rfl, (List.mem_filter.1 hb').2⟩

end Health

/-! ## Examples -/

/-- A gateway with the key `s3cret` in front of one engine. -/
def keyedPlane : PlaneConfig ℚ where
  cfg := { defaultCfg with strategy := .roundRobin }
  loader := ⟨.ascii, fun _ => .ok ⟨"http", some "gpu0"⟩, "", fun _ => ""⟩
  guard := keyed
  num := fun x => match x with
    | .fin q => q
    | _ => 0

def engine0 : Backend := { id := "gpu0", baseUrl := "http://gpu0:8000" }

theorem vetted_engine0 : ∀ b ∈ [engine0], Vetted keyedPlane b := by
  intro b hb
  rw [List.mem_singleton.1 hb]
  exact ⟨.str "http://gpu0:8000", .str "gpu0", rfl⟩

/-- `POST /debug/reset_stats`, with what is in the `Authorization` header. -/
def resetWith (authorization : Option String) : GuardedRequest :=
  ⟨"POST", "/debug/reset_stats", authorization, none, none⟩

/-- The engine fails and recovers while somebody without the key asks for a reset. -/
def failAndRecover : List (PlaneMove ℚ) :=
  [.scheduler (.noteFailure "gpu0" 1), .request (resetWith none) none, .scheduler (.setHealthy "gpu0" true)]

theorem made_failAndRecover : ∀ m ∈ failAndRecover, PlaneMove.Made keyedPlane m := by
  rintro m hm b rfl
  simp [failAndRecover] at hm

theorem picked_backend_known_gpu0 : ∃ b,
    (Trace.play (PlaneMove.exec keyedPlane) (Plane.init keyedPlane [engine0]) (failAndRecover ++ [])).pool.get? "gpu0" =
      some b ∧ b.id = "gpu0" ∧ Vetted keyedPlane b := by
  obtain ⟨d, s, hpick⟩ : ∃ d s, Scheduler.pick keyedPlane.cfg
      (Trace.play (PlaneMove.exec keyedPlane) (Plane.init keyedPlane [engine0]) failAndRecover).sched ⟨"hi", "small", some 9, none⟩ =
        (.ok ("gpu0", d), s) := ⟨_, _, rfl⟩
  exact picked_backend_known vetted_engine0 (by rw [List.append_nil]; exact made_failAndRecover) hpick

theorem unauthorized_invisible_reset :
    Trace.play (PlaneMove.exec keyedPlane) (Plane.init keyedPlane [engine0]) failAndRecover =
      Trace.play (PlaneMove.exec keyedPlane) (Plane.init keyedPlane [engine0])
        [.scheduler (.noteFailure "gpu0" 1), .scheduler (.setHealthy "gpu0" true)] :=
  unauthorized_invisible rfl (by decide) rfl failAndRecover (Plane.init keyedPlane [engine0])

/-- Only the health path answers. -/
def onlyHealth (url : String) (_ : Dict String String) : Option Nat :=
  if url = "http://gpu0:8000/health" then some 204 else none

theorem rotation_after_round_gpu0 :
    ((Trace.play (PlaneMove.exec keyedPlane) (Plane.init keyedPlane [engine0]) failAndRecover).healthRound
      onlyHealth).sched.healthyIds = ["gpu0"] :=
  (rotation_after_round vetted_engine0 made_failAndRecover onlyHealth rfl).1.trans (by decide)

end Dio.Gateway
