/-
Engine telemetry: what one scrape of `/metrics` gives (`engine_metrics.py`), the metrics loop
(`gateway.py`), and what is left of a scrape after later ones fail. The loop skips a failed scrape
and leaves the last snapshot, and the free VRAM derived from it, where they are.
-/
import DioServe.Scheduler.Traffic
import Mathlib.Data.Fintype.EquivFin

namespace Dio.Gateway

open Data Effect Scheduler

variable {K : Type}

/-! ## One scrape -/

/-- `n.split(":", 1)[-1]`. -/
def bareName (n : String) : List Char :=
  match n.toList.dropWhile (· ≠ ':') with
  | [] => n.toList
  | _ :: rest => rest

/-- `_first`: for each name in turn the sample of that name, else the first sample whose name ends in
its part after the colon. -/
def first (metrics : Dict String K) : List String → Option K
  | [] => none
  | n :: ns =>
    match Dict.get? metrics n with
    | some v => some v
    | none =>
      match metrics.find? fun p => (bareName n).isSuffixOf p.1.toList || p.1.toList == bareName n with
      | some p => some p.2
      | none => first metrics ns

/-- The outcome of one GET of a backend's metrics: an answer with its parsed samples, or an exception. -/
inductive ScrapeReply (K : Type)
  | response (status : Nat) (metrics : Dict String K)
  | raised

section Scrape

variable [Field K] [LinearOrder K]

/-- `max(0.0, min(1.0, x))`. -/
def unitClamp (x : K) : K := max 0 (min 1 x)

/-- `prefix_hit_rate`: reported, or computed from hits and queries. -/
def prefixHitRate (metrics : Dict String K) : K :=
  let hits := (first metrics ["vllm:prefix_cache_hits", "prefix_cache_hits"]).getD 0
  let queries := (first metrics ["vllm:prefix_cache_queries", "prefix_cache_queries"]).getD 0
  match first metrics ["vllm:gpu_prefix_cache_hit_rate", "vllm:prefix_cache_hit_rate", "gpu_prefix_cache_hit_rate"] with
  | some rate => unitClamp rate
  | none => if queries > 0 then unitClamp (hits / queries) else 0

/-- `snapshot_from_metrics`. -/
def snapshotFromMetrics (metrics : Dict String K) : EngineSnapshot K :=
  if metrics = [] then ⟨0, 0, 0, false⟩
  else
    { kvCacheUsage := ((first metrics ["vllm:gpu_cache_usage_perc", "vllm:kv_cache_usage_perc", "gpu_cache_usage_perc",
        "kv_cache_usage_perc"]).map unitClamp).getD 0
      numWaiting := ((first metrics ["vllm:num_requests_waiting", "num_requests_waiting"]).map (max 0)).getD 0
      prefixHitRate := prefixHitRate metrics
      ok := true }

/-- The snapshot of a successful scrape. -/
def ScrapeReply.snapshot : ScrapeReply K → Option (EngineSnapshot K)
  | .response status metrics =>
    if status ≥ 400 then none
    else if (snapshotFromMetrics metrics).ok then some (snapshotFromMetrics metrics) else none
  | .raised => none

/-- One backend's turn in `_metrics_loop`. -/
def scrape (s : State K) (workerId : String) (r : ScrapeReply K) : State K :=
  match r.snapshot with
  | some snap => setEngineMetrics s workerId snap
  | none => s

theorem snapshot_ok {r : ScrapeReply K} {snap : EngineSnapshot K} (h : r.snapshot = some snap) : snap.ok = true := by
  cases r with
  | raised => cases h
  | response status metrics =>
    simp only [ScrapeReply.snapshot] at h
    split at h
    · cases h
    · split at h
      · rename_i hok; cases h; exact hok
      · cases h

theorem snapshot_kv_nonneg {r : ScrapeReply K} {snap : EngineSnapshot K} (h : r.snapshot = some snap) :
    0 ≤ snap.kvCacheUsage := by
  cases r with
  | raised => cases h
  | response status metrics =>
    simp only [ScrapeReply.snapshot] at h
    split at h
    · cases h
    · split at h
      · cases h
        unfold snapshotFromMetrics
        split
        · exact le_refl _
        · cases first metrics _ with
          | none => exact le_refl _
          | some x => exact le_max_left _ _
      · cases h

end Scrape

/-! ## The loop among the traffic -/

/-- One scrape of a backend, or one operation of the traffic in between. -/
inductive Tick (K : Type)
  | scrape (workerId : String) (r : ScrapeReply K)
  | traffic (m : Move K)

/-- The scheduler, the last snapshot scraped of one worker, and whether the latest scrape of it failed. -/
structure Watch (K : Type) where
  sched : State K
  last : Option (EngineSnapshot K)
  failed : Bool

/-- The traffic neither registers the worker again, nor takes it out, nor sets its memory or metrics. -/
def Undisturbed (w : String) : Tick K → Prop
  | .scrape _ _ => True
  | .traffic (.register r) => r.id ≠ w
  | .traffic (.unregister v) => v ≠ w
  | .traffic (.setVram v _) => v ≠ w
  | .traffic (.setEngineMetrics _ _) => False
  | .traffic _ => True

/-- A worker's total and free memory. -/
def vram (s : State K) (w : String) : Option (K × K) :=
  (Dict.get? s.predictors w).map fun x => (x.nlms.totalVramMb, x.nlms.freeVramMb)

theorem vram_onNlms_same {f : DualTimescaleNlms K → DualTimescaleNlms K}
    (hf : ∀ m, (f m).totalVramMb = m.totalVramMb ∧ (f m).freeVramMb = m.freeVramMb) (s : State K) (v w : String) :
    vram (s.onNlms v f) w = vram s w := by
  rw [vram, State.get?_onNlms]
  split
  · rw [Option.map_map]
    refine congrArg (Option.map · _) (funext fun x => ?_)
    exact Prod.ext (hf x.nlms).1 (hf x.nlms).2
  · rfl

section Loop

variable [Field K] [LinearOrder K] [FloorRing K] (cfg : Cfg K) (w : String)

/-- One tick, watching `w`. -/
def Tick.exec (t : Tick K) (v : Watch K) : Watch K :=
  match t with
  | .scrape b r =>
    { sched := Gateway.scrape v.sched b r
      last := if b = w then r.snapshot.or v.last else v.last
      failed := if b = w then r.snapshot.isNone else v.failed }
  | .traffic m => { v with sched := m.onSched cfg v.sched }

/-- The free memory a worker shows after its last successful scrape. -/
def freeAfter (total free : K) : Option (EngineSnapshot K) → K
  | some snap => if total > 0 then max 0 (total * (1 - snap.kvCacheUsage)) else free
  | none => free

/-- What scrapes leave behind: the last successful snapshot, and the free memory derived from it. -/
structure Stale (total free : K) (v : Watch K) : Prop where
  snap : Dict.get? v.sched.engineSnap w = v.last
  memory : vram v.sched w = some (total, freeAfter total free v.last)
  ok : ∀ snap, v.last = some snap → snap.ok = true

variable {cfg w}

theorem vram_pick (cfg : Cfg K) (s : State K) (a : PickArgs) : vram (Scheduler.pick cfg s a).2 w = vram s w := by
  have hp := pick_effect cfg s a
  unfold PickEffect at hp
  split at hp
  · rw [vram, hp]
    exact vram_onNlms_same (fun m => by rw [DualTimescaleNlms.markAdmitted]; exact ⟨rfl, rfl⟩) s _ w
  · rw [vram, hp, vram]

omit [FloorRing K] in
theorem vram_feedback (cfg : Cfg K) (s : State K) (v : String) (e2eMs : K) (tokens : Int) (success : Bool) :
    vram (Scheduler.feedback cfg s v e2eMs tokens success) w = vram s w := by
  have hfree : ∀ m : DualTimescaleNlms K, m.free.totalVramMb = m.totalVramMb ∧ m.free.freeVramMb = m.freeVramMb := by
    intro m
    unfold DualTimescaleNlms.free
    split <;> exact ⟨rfl, rfl⟩
  -- the three steps of `feedback`: the log, the outcome, the slot
  let read : State K := s.onNlms v fun m => { m with inflightLog := m.inflightLog.tail }
  have hread : vram read w = vram s w := vram_onNlms_same (by intro m; exact ⟨rfl, rfl⟩) s v w
  let learned : State K :=
    if success then completed cfg read v e2eMs tokens (admittedDepth s v) else failed read
  have hlearned : vram learned w = vram read w := by
    cases success with
    | false => rfl
    | true =>
      show (Dict.get? (Dict.modify read.predictors v fun x => x.learn e2eMs tokens (admittedDepth s v)) w).map _ = _
      rw [Dict.get?_modify, vram]
      split
      · rw [Option.map_map]
        refine congrArg (Option.map · _) (funext fun x => ?_)
        have hsame := DualTimescaleNlms.update_sameSlot x.nlms e2eMs tokens (admittedDepth s v)
        exact Prod.ext hsame.totalVramMb hsame.freeVramMb
      · rfl
  exact (vram_onNlms_same hfree learned v w).trans (hlearned.trans hread)

/-- The traffic leaves the worker's telemetry and memory alone. -/
theorem onSched_undisturbed {m : Move K} (h : Undisturbed w (.traffic m)) (s : State K) :
    Dict.get? (m.onSched cfg s).engineSnap w = Dict.get? s.engineSnap w ∧ vram (m.onSched cfg s) w = vram s w := by
  cases m with
  | register r =>
    refine ⟨rfl, ?_⟩
    show (Dict.get? (Dict.set s.predictors r.id _) w).map _ = _
    rw [Dict.get?_set_ne h]; rfl
  | unregister v =>
    refine ⟨rfl, ?_⟩
    show (Dict.get? (Dict.erase s.predictors v) w).map _ = _
    rw [Dict.get?_erase_ne h]; rfl
  | pick a => exact ⟨by rw [show (Move.onSched cfg s (.pick a)).engineSnap = s.engineSnap from pick_engineSnap cfg s a],
      vram_pick cfg s a⟩
  | feedback t e n ok => exact ⟨by cases ok <;> rfl, vram_feedback cfg s t.worker e n ok⟩
  | release t =>
    refine ⟨rfl, vram_onNlms_same (fun m => ?_) s t.worker w⟩
    unfold DualTimescaleNlms.free
    split <;> exact ⟨rfl, rfl⟩
  | setHealthy v ok =>
    have hv : vram (s.onNlms v fun m => { m with healthy := ok }) w = vram s w :=
      vram_onNlms_same (by intro m; exact ⟨rfl, rfl⟩) s v w
    show Dict.get? (setHealthy s v ok).engineSnap w = _ ∧ vram (setHealthy s v ok) w = _
    unfold setHealthy
    dsimp only
    split <;> exact ⟨rfl, hv⟩
  | setVram v f =>
    refine ⟨rfl, ?_⟩
    show (Dict.get? (s.onNlms v _).predictors w).map _ = _
    rw [State.get?_onNlms, if_neg (Ne.symm h)]; rfl
  | setEngineMetrics v snap => exact absurd h id
  | noteFailure v n =>
    show Dict.get? (Scheduler.noteFailure s v n).2.engineSnap w = _ ∧ vram (Scheduler.noteFailure s v n).2 w = _
    unfold Scheduler.noteFailure
    dsimp only
    split
    · exact ⟨rfl, vram_onNlms_same (by intro m; exact ⟨rfl, rfl⟩) _ v w⟩
    · exact ⟨rfl, rfl⟩
  | noteSuccess v => exact ⟨rfl, rfl⟩
  | resetStats => exact ⟨rfl, rfl⟩

omit [FloorRing K] in
theorem vram_setEngineMetrics {s : State K} {v : String} {snap : EngineSnapshot K} (hok : snap.ok = true)
    (hkv : 0 ≤ snap.kvCacheUsage) : vram (setEngineMetrics s v snap) w =
      if w = v then (vram s w).map fun p => (p.1, freeAfter p.1 p.2 (some snap)) else vram s w := by
  unfold setEngineMetrics
  dsimp only
  rw [if_pos hok, vram, State.get?_onNlms]
  split
  · rw [vram, Option.map_map, Option.map_map]
    refine congrArg (Option.map · _) (funext fun x => ?_)
    simp only [Function.comp, freeAfter]
    by_cases ht : x.nlms.totalVramMb > 0
    · rw [if_pos ⟨ht, hkv⟩, if_pos ht]
    · rw [if_neg fun h => ht h.1, if_neg ht]
  · rfl

omit [FloorRing K] in
theorem engineSnap_setEngineMetrics (s : State K) (v : String) (snap : EngineSnapshot K) :
    (setEngineMetrics s v snap).engineSnap = Dict.set s.engineSnap v snap := by
  unfold setEngineMetrics
  dsimp only
  split <;> rfl

omit [FloorRing K] in
theorem freeAfter_freeAfter (total free : K) (snap : EngineSnapshot K) (last : Option (EngineSnapshot K)) :
    freeAfter total (freeAfter total free last) (some snap) = freeAfter total free (some snap) := by
  by_cases ht : total > 0
  · simp only [freeAfter, if_pos ht]
  · cases last <;> simp only [freeAfter, if_neg ht]

/-- Whatever comes, a worker shows what its last successful scrape left. -/
theorem Stale.exec {total free : K} {v : Watch K} (h : Stale w total free v) {t : Tick K} (ht : Undisturbed w t) :
    Stale w total free (t.exec cfg w v) := by
  cases t with
  | traffic m =>
    obtain ⟨hsnap, hmem⟩ : Dict.get? (m.onSched cfg v.sched).engineSnap w = Dict.get? v.sched.engineSnap w ∧
        vram (m.onSched cfg v.sched) w = vram v.sched w := onSched_undisturbed ht v.sched
    exact ⟨hsnap.trans h.snap, hmem.trans h.memory, h.ok⟩
  | scrape b r =>
    cases hr : r.snapshot with
    | none =>
      have hexec : Tick.exec cfg w (.scrape b r) v = { v with failed := if b = w then true else v.failed } := by
        simp only [Tick.exec, Gateway.scrape, hr, Option.none_or, ite_self, Option.isNone_none]
      rw [hexec]
      exact ⟨h.snap, h.memory, h.ok⟩
    | some snap =>
      have hok := snapshot_ok hr
      have hsched : (Tick.exec cfg w (.scrape b r) v).sched = setEngineMetrics v.sched b snap := by
        simp only [Tick.exec, Gateway.scrape, hr]
      have hlast : (Tick.exec cfg w (.scrape b r) v).last = if b = w then some snap else v.last := by
        simp only [Tick.exec, hr, Option.some_or]
      refine ⟨?_, ?_, ?_⟩
      · rw [hsched, hlast, engineSnap_setEngineMetrics, Dict.get?_set, h.snap]
      · rw [hsched, hlast, vram_setEngineMetrics hok (snapshot_kv_nonneg hr)]
        by_cases hb : b = w
        · rw [if_pos hb.symm, if_pos hb, h.memory, Option.map_some, freeAfter_freeAfter]
        · rw [if_neg (Ne.symm hb), if_neg hb, h.memory]
      · intro snap' hs
        rw [hlast] at hs
        split at hs
        · cases hs; exact hok
        · exact h.ok snap' hs

end Loop

/-! ## Telemetry switched off -/

section Off

variable [Field K] [LinearOrder K]

/-- The scheduler as if nothing had been scraped of the worker. -/
def unscraped (s : State K) (w : String) : State K := { s with engineSnap := Dict.erase s.engineSnap w }

/-- No telemetry enters the worker's cost, and it blocks no request that it would not block with the
free memory it had before any scrape. -/
structure TelemetryOff (cfg : Cfg K) (w : String) (free : K) (s : State K) (x : Worker K) : Prop where
  kv : ∀ tokens tier pkey, (decision cfg s w x tokens tier pkey).engineKvCostMs = 0
  queue : ∀ tokens tier pkey, (decision cfg s w x tokens tier pkey).engineQueueCostMs = 0
  bonus : ∀ tokens tier pkey, (decision cfg s w x tokens tier pkey).enginePrefixBonusMs = 0
  blocked : ∀ tokens tier, hardBlocked cfg s w x.nlms tokens tier = true →
    hardBlocked cfg (unscraped s w) w { x.nlms with freeVramMb := free } tokens tier = true

/-- Free memory at which long requests are blocked. -/
def Short (cfg : Cfg K) (free : K) : Prop := 0 < free ∧ free < cfg.vramHardMb

/-- The last successful scrape, if there is one, gave terms that are all zero, no block of its own, and
free memory that blocks nothing the memory before did not. -/
structure Harmless (cfg : Cfg K) (total free : K) (snap : EngineSnapshot K) : Prop where
  kv : cfg.useEngineMetrics = true → snap.kvCacheUsage * cfg.kvCacheCostMs = 0
  queue : cfg.useEngineMetrics = true → snap.numWaiting * cfg.engineQueueCostMs = 0
  bonus : cfg.useEngineMetrics = true → snap.prefixHitRate * cfg.enginePrefixHitBonusMs = 0
  full : cfg.useEngineMetrics = true → cfg.ablation.disableVramHard = false → snap.kvCacheUsage ≤ 95 / 100
  memory : cfg.ablation.disableVramHard = false → Short cfg (freeAfter total free (some snap)) → Short cfg free

variable {cfg : Cfg K} {w : String}

omit [Field K] [LinearOrder K] in
theorem engine_unscraped (s : State K) : engine cfg (unscraped s w) w = none := by
  simp [engine, unscraped]

theorem Stale.engine_eq {total free : K} {v : Watch K} (h : Stale w total free v) :
    engine cfg v.sched w = if cfg.useEngineMetrics then v.last else none := by
  unfold engine
  rw [h.snap]
  split
  · cases hl : v.last with
    | none => rfl
    | some snap => simp [h.ok snap hl]
  · rfl

theorem Stale.worker {total free : K} {v : Watch K} (h : Stale w total free v) {x : Worker K}
    (hx : Dict.get? v.sched.predictors w = some x) : x.nlms.freeVramMb = freeAfter total free v.last := by
  have hm := h.memory
  rw [vram, hx] at hm
  exact (Prod.mk.inj (Option.some.inj hm)).2

/-- Without a scrape, or after a harmless one, telemetry is off. -/
theorem telemetryOff_of_harmless {total free : K} {v : Watch K} (h : Stale w total free v) {x : Worker K}
    (hx : Dict.get? v.sched.predictors w = some x) (hh : ∀ snap, v.last = some snap → Harmless cfg total free snap) :
    TelemetryOff cfg w free v.sched x := by
  have hengine : ∀ eng, engine cfg v.sched w = some eng → cfg.useEngineMetrics = true ∧ Harmless cfg total free eng := by
    intro eng he
    rw [h.engine_eq] at he
    split at he
    · rename_i huse; exact ⟨huse, hh eng he⟩
    · cases he
  have hpre : enginePrefixMs cfg v.sched w = 0 := by
    unfold enginePrefixMs
    cases he : engine cfg v.sched w with
    | none => rfl
    | some eng => exact (hengine eng he).2.bonus (hengine eng he).1
  refine ⟨fun _ _ _ => ?_, fun _ _ _ => ?_, fun _ _ _ => ?_, fun tokens tier hb => ?_⟩
  · show engineKvCostMs cfg v.sched w = 0
    unfold engineKvCostMs
    cases he : engine cfg v.sched w with
    | none => rfl
    | some eng => exact (hengine eng he).2.kv (hengine eng he).1
  · show engineQueueCostMs cfg v.sched w = 0
    unfold engineQueueCostMs
    cases he : engine cfg v.sched w with
    | none => rfl
    | some eng => exact (hengine eng he).2.queue (hengine eng he).1
  · show enginePrefixMs cfg v.sched w * _ = 0
    rw [hpre, zero_mul]
  · -- a block comes from the free memory, the KV usage or the tier
    rcases hardBlocked_iff.1 hb with ⟨hon, ⟨hshort, htok⟩ | ⟨eng, he, hkv, -⟩⟩ | htier
    · refine hardBlocked_iff.2 (.inl ⟨hon, .inl ⟨?_, htok⟩⟩)
      rw [h.worker hx] at hshort
      cases hl : v.last with
      | none => rw [hl] at hshort; exact hshort
      | some snap => rw [hl] at hshort; exact (hh snap hl).memory hon hshort
    · exact absurd hkv (not_lt.2 ((hengine eng he).2.full (hengine eng he).1 hon))
    · exact hardBlocked_iff.2 (.inr htier)

variable [IsStrictOrderedRing K]

/-- A prefix bonus counts for some request, if time is predicted for it to save. -/
theorem enginePrefixMs_eq_zero {s : State K} {x : Worker K} {tokens : Int}
    (htime : 0 < waitMs cfg x tokens + (estimate cfg x tokens).1)
    (hoff : ∀ tier pkey, (decision cfg s w x tokens tier pkey).enginePrefixBonusMs = 0) : enginePrefixMs cfg s w = 0 := by
  by_contra hne
  -- a prompt key the affinity cache does not know
  obtain ⟨pkey, hpkey⟩ := Infinite.exists_notMem_finset (Dict.keys s.prefixCache).toFinset
  have hmiss : affinityHit cfg s w pkey = false := by
    have hget : Dict.get? s.prefixCache pkey = none := Dict.get?_eq_none_iff.2 fun hm => hpkey (List.mem_toFinset.2 hm)
    simp [affinityHit, hget]
  have hzero : enginePrefixMs cfg s w *
      bonusScale (0 + enginePrefixMs cfg s w) (max 0 (waitMs cfg x tokens + (estimate cfg x tokens).1)) = 0 := by
    have h := hoff "small" pkey
    simp only [decision, hmiss] at h
    exact h
  rw [zero_add] at hzero
  rcases mul_eq_zero.1 hzero with h | h
  · exact hne h
  · unfold bonusScale at h
    split at h
    · exact one_ne_zero h
    · rcases div_eq_zero_iff.1 h with h | h
      · exact (lt_max_of_lt_right htime).ne' h
      · exact hne h

/-- Telemetry is off only after a harmless scrape, or none. -/
theorem harmless_of_telemetryOff {total free : K} {v : Watch K} (h : Stale w total free v) {x : Worker K}
    (hx : Dict.get? v.sched.predictors w = some x)
    (htime : ∃ tokens, 0 < waitMs cfg x tokens + (estimate cfg x tokens).1) (ho : TelemetryOff cfg w free v.sched x)
    {snap : EngineSnapshot K} (hl : v.last = some snap) : Harmless cfg total free snap := by
  obtain ⟨tokens, htime⟩ := htime
  have hengine : cfg.useEngineMetrics = true → engine cfg v.sched w = some snap := by
    intro huse
    rw [h.engine_eq, if_pos huse, hl]
  refine ⟨fun huse => ?_, fun huse => ?_, fun huse => ?_, fun huse hon => ?_, fun hon hshort => ?_⟩
  · have hk : engineKvCostMs cfg v.sched w = 0 := ho.kv 1 "small" 0
    rw [engineKvCostMs, hengine huse] at hk
    exact hk
  · have hq : engineQueueCostMs cfg v.sched w = 0 := ho.queue 1 "small" 0
    rw [engineQueueCostMs, hengine huse] at hq
    exact hq
  · have hp := enginePrefixMs_eq_zero htime (ho.bonus tokens)
    rw [enginePrefixMs, hengine huse] at hp
    exact hp
  · by_contra hfull
    -- 501 tokens: enough for the KV limit, too few for the one on memory
    have hb := ho.blocked 501 "small" (hardBlocked_iff.2 (.inl ⟨hon, .inr ⟨snap, hengine huse, not_le.1 hfull, by decide⟩⟩))
    rcases hardBlocked_iff.1 hb with ⟨-, ⟨-, htok⟩ | ⟨eng, he, -⟩⟩ | ⟨-, htier, -⟩
    · exact absurd htok (by decide)
    · rw [engine_unscraped] at he; cases he
    · exact absurd htier (by decide)
  · have hx' : x.nlms.freeVramMb = freeAfter total free (some snap) := by rw [h.worker hx, hl]
    -- 1001 tokens: enough for the limit on memory
    have hb := ho.blocked 1001 "small" (hardBlocked_iff.2 (.inl ⟨hon, .inl ⟨hx' ▸ hshort, by decide⟩⟩))
    rcases hardBlocked_iff.1 hb with ⟨-, ⟨hs, -⟩ | ⟨eng, he, -⟩⟩ | ⟨-, htier, -⟩
    · exact hs
    · rw [engine_unscraped] at he; cases he
    · exact absurd htier (by decide)

variable [FloorRing K]

/-- A worker of the default fleet, watched through some scrapes. -/
def watched (rs : List (ScrapeReply ℚ)) : Watch ℚ :=
  Trace.play (Tick.exec defaultCfg "gpu0") ⟨(fleet defaultCfg [oneWorker]).sched, none, false⟩ (rs.map (.scrape "gpu0"))

/-- The record of that worker with some free memory. -/
def gpu0 (free : ℚ) : Worker ℚ := newWorker defaultCfg "small" 24000 (some free)

/-- A scrape that reports a nearly full KV cache, then an engine whose metrics cannot be read. -/
def fullThenDown : List (ScrapeReply ℚ) := [.response 200 [("vllm:gpu_cache_usage_perc", 99 / 100)], .response 503 []]

end Off

end Dio.Gateway
