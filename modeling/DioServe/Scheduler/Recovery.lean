/-
Whether the gate on observed latency can be opened again. It reads only `recent_e2e`, which only
successful completions refresh. From a reachable state some continuation is admitted when
completions of the requests in flight can bring the observed tail down, or when two candidates can
be told apart under `empirical`; under `strict`, and with a single worker, the first is also
necessary, so a slow window with nothing in flight rejects every later pick.
-/
import DioServe.Scheduler.Bounds

namespace Dio.Scheduler

open Data

variable {K : Type} [Field K] [LinearOrder K] [FloorRing K] {cfg : Cfg K}

/-! ## Liveness -/

/-- Some continuation of `s` ends in an admitted pick. -/
def Live (cfg : Cfg K) (s : Sys K) : Prop := ∃ s', Reach cfg s s' ∧ ∃ a r, (pick cfg s'.sched a).1 = .ok r

/-- The window after `j` more completions of latency zero, the best a completion can do. -/
def refreshed (cfg : Cfg K) (recent : List K) : Nat → List K
  | 0 => recent
  | j + 1 => Deque.push cfg.recentMax (refreshed cfg recent j) 0

/-- Completing requests in flight can open the gate. -/
def CanOpen (cfg : Cfg K) (s : Sys K) : Prop :=
  ∃ j ≤ s.inFlight.length, GateOpen cfg (refreshed cfg s.sched.recentE2e j)

omit [LinearOrder K] [FloorRing K] in
theorem length_refreshed {recent recent' : List K} (h : recent.length = recent'.length) :
    ∀ j, (refreshed cfg recent j).length = (refreshed cfg recent' j).length
  | 0 => h
  | j + 1 => by
    unfold refreshed
    rw [Deque.length_push, Deque.length_push, length_refreshed h j]

/-! ### Requests for chosen workers -/

/-- The worker, put back in rotation. -/
def Worker.heal (w : Worker K) : Worker K := { w with nlms := { w.nlms with healthy := true } }

omit [Field K] [LinearOrder K] [FloorRing K] in
theorem get?_setHealthy (s : State K) (w id : String) :
    Dict.get? (setHealthy s w true).predictors id =
      if id = w then (Dict.get? s.predictors id).map .heal else Dict.get? s.predictors id := by
  rw [predictors_setHealthy]
  exact Dict.get?_modify w id .heal s.predictors

/-- With the gate open, waking a worker makes a one-token request for it admitted. -/
theorem live_of_open (hg : ObservedGate cfg) {s : Sys K} (hn : (Dict.keys s.sched.predictors).Nodup)
    (hf : ∃ id w, Dict.get? s.sched.predictors id = some w ∧ Feasible cfg w)
    (ho : GateOpen cfg s.sched.recentE2e) : Live cfg s := by
  obtain ⟨id, w, hw, hfeas⟩ := hf
  let s' := (Op.setHealthy id true : Op K).exec cfg s
  have hreach : Reach cfg s s' := (Reach.refl s).snoc _ trivial
  refine ⟨s', hreach, smallRequest [id], ?_⟩
  have hframe : Frame s.sched s'.sched := frame_setHealthy s.sched id true
  have hn' : (Dict.keys s'.sched.predictors).Nodup := by rw [hframe.keys]; exact hn
  have hw' : Dict.get? s'.sched.predictors id = some w.heal := by
    show Dict.get? (setHealthy s.sched id true).predictors id = _
    rw [get?_setHealthy, if_pos rfl, hw]; rfl
  have hmem : id ∈ eligible s'.sched (some [id]) :=
    (mem_eligible hn').2 ⟨List.mem_singleton_self id, w.heal, hw', rfl⟩
  rw [pick_eq_pickCost hg.byCost (List.ne_nil_of_mem hmem)]
  refine pickCost_admits ?_ ?_
  · exact List.ne_nil_of_mem (mem_candidates.2 ⟨id, hmem, w.heal, hw', score_small hfeas _⟩)
  · intro best _ _
    exact reject_of_open hg (by rw [hframe.recentE2e]; exact ho) _ _

/-- Requests in flight can be completed with latency zero, one after the other. -/
theorem reach_refreshed (s : Sys K) : ∀ j ≤ s.inFlight.length, ∃ s', Reach cfg s s' ∧
    s'.sched.recentE2e = refreshed cfg s.sched.recentE2e j ∧ s'.inFlight.length + j = s.inFlight.length
  | 0, _ => ⟨s, Reach.refl s, rfl, rfl⟩
  | j + 1, hj => by
    obtain ⟨s', hr, hwin, hlen⟩ := reach_refreshed s j (by omega)
    obtain ⟨w, hw⟩ : ∃ w, w ∈ s'.inFlight := List.exists_mem_of_length_pos (by omega)
    refine ⟨_, hr.snoc (.feedback w 0 1 true) ⟨hw, le_refl _⟩, ?_, ?_⟩
    · show (feedback cfg s'.sched w 0 1 true).recentE2e = _
      rw [feedback_recentE2e, if_pos rfl, hwin]; rfl
    · show (s'.inFlight.erase w).length + (j + 1) = _
      have hpos : 0 < s'.inFlight.length := List.length_pos_of_mem hw
      rw [List.length_erase_of_mem hw]; omega

/-- Completions that can open the gate make the state live. -/
theorem live_of_canOpen (hg : ObservedGate cfg) {s₀ s : Sys K} (hn : (Dict.keys s₀.sched.predictors).Nodup)
    (hno : NoOverflow cfg s₀) (hs : Reach cfg s₀ s) (hc : CanOpen cfg s) : Live cfg s := by
  obtain ⟨j, hj, ho⟩ := hc
  obtain ⟨s', hr, hwin, -⟩ : ∃ s', Reach cfg s s' ∧ s'.sched.recentE2e = refreshed cfg s.sched.recentE2e j ∧
      s'.inFlight.length + j = s.inFlight.length := reach_refreshed s j hj
  have hs' : Reach cfg s₀ s' := hs.trans hr
  have hlive : Live cfg s' := live_of_open hg (by rw [hs'.keys]; exact hn) (hno s' hs') (by rw [hwin]; exact ho)
  obtain ⟨s'', hr', h⟩ := hlive
  exact ⟨s'', hr.trans hr', h⟩

/-! ### Telling two workers apart -/

omit [FloorRing K] in
/-- A decision reads the telemetry and the prefix cache of the state only. -/
theorem decision_congr {s s' : State K} {id : String} (he : engine cfg s' id = engine cfg s id)
    (hp : s'.prefixCache = s.prefixCache) (w : Worker K) (tokens : Int) (tier : String) (pkey : Nat) :
    decision cfg s' id w tokens tier pkey = decision cfg s id w tokens tier pkey := by
  have hkv : engineKvCostMs cfg s' id = engineKvCostMs cfg s id := by unfold engineKvCostMs; rw [he]
  have hq : engineQueueCostMs cfg s' id = engineQueueCostMs cfg s id := by unfold engineQueueCostMs; rw [he]
  have hpre : enginePrefixMs cfg s' id = enginePrefixMs cfg s id := by unfold enginePrefixMs; rw [he]
  have hhit : affinityHit cfg s' id pkey = affinityHit cfg s id pkey := by unfold affinityHit; rw [hp]
  unfold decision
  rw [hkv, hq, hpre, hhit]

/-- The terms of a cost that neither free VRAM nor the engine's queue length enters. -/
def baseCost (cfg : Cfg K) (s : State K) (id : String) (w : Worker K) (tokens : Int) (tier : String) (pkey : Nat) : K :=
  let d := decision cfg s id w tokens tier pkey
  d.waitMs + d.execMs + d.tierCostMs + d.engineKvCostMs - d.cacheBonusMs

omit [FloorRing K] in
theorem baseCost_le (s : State K) (id : String) (w : Worker K) (tokens : Int) (tier : String) (pkey : Nat) :
    baseCost cfg s id w tokens tier pkey + vramCostMs cfg w.nlms + engineQueueCostMs cfg s id ≤
      (decision cfg s id w tokens tier pkey).totalMs := by
  unfold baseCost decision
  refine le_trans (le_of_eq ?_) (le_max_right _ _)
  ring

section Apart

variable [IsStrictOrderedRing K]

/-- Of two scores that differ clearly, the least is not in the worst quartile. -/
theorem not_worstQuartile {scores : List K} {a b : K} (h : scores.Perm [a, b]) (hab : a + 1 ≤ b) :
    worstQuartile a scores = false := by
  have hpair : Stats.percentile scores 75 = a * (1 / 4) + b * (3 / 4) := by
    rw [Stats.percentile_eq_of_perm h]
    exact Stats.percentile_pair (by linarith)
  have hsmall : (1 : K) / 10 ^ 9 < 3 / 4 := by norm_num
  unfold worstQuartile
  rw [if_pos (show 2 ≤ scores.length from h.length_eq.ge), hpair, decide_eq_false_iff_not, not_le]
  linarith

/-- Two workers in rotation and the decisions on a one-token request for them. -/
structure Apart (cfg : Cfg K) (s : State K) (id₁ id₂ : String) (w₁ w₂ : Worker K) : Prop where
  ne : id₁ ≠ id₂
  get₁ : Dict.get? s.predictors id₁ = some w₁
  get₂ : Dict.get? s.predictors id₂ = some w₂
  healthy₁ : w₁.nlms.healthy = true
  healthy₂ : w₂.nlms.healthy = true
  feasible₁ : Feasible cfg w₁
  feasible₂ : Feasible cfg w₂
  apart : (decision cfg s id₁ w₁ 1 "small" (cfg.prefixHash "")).totalMs + 1 ≤
    (decision cfg s id₂ w₂ 1 "small" (cfg.prefixHash "")).totalMs

omit [FloorRing K] [IsStrictOrderedRing K] in
theorem Apart.candidates {s : State K} {id₁ id₂ : String} {w₁ w₂ : Worker K} (h : Apart cfg s id₁ id₂ w₁ w₂)
    (hn : (Dict.keys s.predictors).Nodup) :
    (candidates cfg s (eligible s (some [id₁, id₂])) 1 "small" (cfg.prefixHash "")).Perm
      [decision cfg s id₁ w₁ 1 "small" (cfg.prefixHash ""), decision cfg s id₂ w₂ 1 "small" (cfg.prefixHash "")] := by
  have hids : (eligible s (some [id₁, id₂])).Perm [id₁, id₂] := by
    refine (List.perm_ext_iff_of_nodup (nodup_eligible hn _) (by simp [h.ne])).2 fun id => ?_
    rw [mem_eligible hn]
    constructor
    · rintro ⟨hid, -⟩; exact hid
    · intro hid
      refine ⟨hid, ?_⟩
      rcases List.mem_cons.1 hid with rfl | hid
      · exact ⟨w₁, h.get₁, h.healthy₁⟩
      · rw [List.mem_singleton.1 hid]; exact ⟨w₂, h.get₂, h.healthy₂⟩
  have hmap := hids.filterMap fun w =>
    (Dict.get? s.predictors w).bind fun x => score cfg s w x 1 "small" (cfg.prefixHash "")
  refine hmap.trans (List.Perm.of_eq ?_)
  simp [h.get₁, h.get₂, score_small h.feasible₁, score_small h.feasible₂]

/-- Two candidates whose costs differ clearly are not shed under `empirical`. -/
theorem Apart.admits (hg : ObservedGate cfg) (hm : cfg.admissionMode = .empirical) {s : State K}
    (hn : (Dict.keys s.predictors).Nodup) {id₁ id₂ : String} {w₁ w₂ : Worker K} (h : Apart cfg s id₁ id₂ w₁ w₂) :
    ∃ r, (pick cfg s (smallRequest [id₁, id₂])).1 = .ok r := by
  have hcands := h.candidates hn
  have hmem : id₁ ∈ eligible s (some [id₁, id₂]) :=
    (mem_eligible hn).2 ⟨List.mem_cons_self .., w₁, h.get₁, h.healthy₁⟩
  rw [pick_eq_pickCost hg.byCost (List.ne_nil_of_mem hmem)]
  show ∃ r, (pickCost cfg s (eligible s (some [id₁, id₂])) "" 1 "small").1 = .ok r
  refine pickCost_admits (List.ne_nil_of_mem (hcands.mem_iff.2 (List.mem_cons_self ..))) ?_
  intro best hbest hmin
  have hle : best.totalMs ≤ (decision cfg s id₁ w₁ 1 "small" (cfg.prefixHash "")).totalMs :=
    hmin _ (hcands.mem_iff.2 (List.mem_cons_self ..))
  have hap := h.apart
  have hbest₁ : best = decision cfg s id₁ w₁ 1 "small" (cfg.prefixHash "") := by
    rcases List.mem_cons.1 (hcands.mem_iff.1 hbest) with h | h
    · exact h
    · rw [List.mem_singleton.1 h] at hle; linarith
  rw [hbest₁]
  exact reject_of_standsOut hg hm (not_worstQuartile (hcands.map fun d => d.totalMs) hap)

/-! ### Levers -/

/-- An input that can raise a worker's cost at will: its free VRAM, or its engine's queue length. -/
def Lever (cfg : Cfg K) (w : Worker K) : Prop :=
  (cfg.ablation.disableVramSoft = false ∧ 0 < w.nlms.totalVramMb) ∨
    (cfg.useEngineMetrics = true ∧ 0 < cfg.engineQueueCostMs)

/-- Under `empirical`, two workers can be told apart. -/
structure Separable (cfg : Cfg K) (s : State K) : Prop where
  mode : cfg.admissionMode = .empirical
  pair : ∃ id₁ id₂ w₁ w₂, id₁ ≠ id₂ ∧ Dict.get? s.predictors id₁ = some w₁ ∧ Dict.get? s.predictors id₂ = some w₂ ∧
    Feasible cfg w₁ ∧ Feasible cfg w₂ ∧ Lever cfg w₂

/-- The worker with another free-VRAM reading. -/
def Worker.withFree (w : Worker K) (free : K) : Worker K := { w with nlms := { w.nlms with freeVramMb := free } }

omit [LinearOrder K] [FloorRing K] [Field K] [IsStrictOrderedRing K] in
theorem get?_setVram (s : State K) (w id : String) (free : K) :
    Dict.get? (setVram s w free).predictors id =
      if id = w then (Dict.get? s.predictors id).map (·.withFree free) else Dict.get? s.predictors id := by
  show Dict.get? (Dict.modify s.predictors w fun x => x.withFree free) id = _
  exact Dict.get?_modify w id _ s.predictors

/-- A free-VRAM reading that makes the second worker clearly dearer. -/
theorem apart_of_vram {s : State K} {id₁ id₂ : String} {w₁ w₂ : Worker K} (hne : id₁ ≠ id₂)
    (h₁ : Dict.get? s.predictors id₁ = some w₁) (h₂ : Dict.get? s.predictors id₂ = some w₂)
    (hh₁ : w₁.nlms.healthy = true) (hh₂ : w₂.nlms.healthy = true) (hf₁ : Feasible cfg w₁) (hf₂ : Feasible cfg w₂)
    (hsoft : cfg.ablation.disableVramSoft = false) (htot : 0 < w₂.nlms.totalVramMb) :
    ∃ free, Apart cfg (setVram s id₂ free) id₁ id₂ w₁ (w₂.withFree free) := by
  let pkey := cfg.prefixHash ""
  -- the pressure cost that puts the second worker behind the first
  let need := (decision cfg s id₁ w₁ 1 "small" pkey).totalMs + 1 - baseCost cfg s id₂ w₂ 1 "small" pkey -
    engineQueueCostMs cfg s id₂
  -- below the soft limit, and low enough for that cost
  let free := min (cfg.vramSoftMb - 1) (w₂.nlms.totalVramMb * (1 - need / 1000))
  refine ⟨free, hne, ?_, ?_, hh₁, hh₂, hf₁, hf₂, ?_⟩
  · rw [get?_setVram, if_neg hne, h₁]
  · rw [get?_setVram, if_pos rfl, h₂]; rfl
  · have hcost : need ≤ vramCostMs cfg (w₂.withFree free).nlms := by
      have hlt : free < cfg.vramSoftMb := lt_of_le_of_lt (min_le_left _ _) (by linarith)
      have hle : free / w₂.nlms.totalVramMb ≤ 1 - need / 1000 := by
        rw [div_le_iff₀ htot, mul_comm]; exact min_le_right _ _
      have hv : vramCostMs cfg (w₂.withFree free).nlms = (1 - free / w₂.nlms.totalVramMb) * 1000 :=
        if_pos ⟨hsoft, htot, hlt⟩
      rw [hv]; linarith
    have hd : decision cfg (setVram s id₂ free) id₁ w₁ 1 "small" pkey = decision cfg s id₁ w₁ 1 "small" pkey :=
      decision_congr rfl rfl w₁ 1 "small" pkey
    have hbase : baseCost cfg (setVram s id₂ free) id₂ (w₂.withFree free) 1 "small" pkey =
        baseCost cfg s id₂ w₂ 1 "small" pkey := rfl
    have hq : engineQueueCostMs cfg (setVram s id₂ free) id₂ = engineQueueCostMs cfg s id₂ := rfl
    have hle : baseCost cfg (setVram s id₂ free) id₂ (w₂.withFree free) 1 "small" pkey +
        vramCostMs cfg (w₂.withFree free).nlms + engineQueueCostMs cfg (setVram s id₂ free) id₂ ≤ _ :=
      baseCost_le (setVram s id₂ free) id₂ (w₂.withFree free) 1 "small" pkey
    rw [hbase, hq] at hle
    show (decision cfg (setVram s id₂ free) id₁ w₁ 1 "small" pkey).totalMs + 1 ≤ _
    rw [hd]
    have hneed : need = (decision cfg s id₁ w₁ 1 "small" pkey).totalMs + 1 - baseCost cfg s id₂ w₂ 1 "small" pkey -
      engineQueueCostMs cfg s id₂ := rfl
    exact le_trans (by linarith) hle

/-- The telemetry of an engine with `waiting` queued requests and nothing cached. -/
def queueSnapshot (waiting : K) : EngineSnapshot K := ⟨0, waiting, 0, true⟩

/-- The worker after such telemetry: its free VRAM is its total, when known. -/
def Worker.emptied (w : Worker K) : Worker K :=
  { w with nlms :=
    if w.nlms.totalVramMb > 0 ∧ (0 : K) ≥ 0 then { w.nlms with freeVramMb := max 0 (w.nlms.totalVramMb * (1 - 0)) }
    else w.nlms }

omit [FloorRing K] [IsStrictOrderedRing K] in
theorem get?_setEngineMetrics (s : State K) (w id : String) (waiting : K) :
    Dict.get? (setEngineMetrics s w (queueSnapshot waiting)).predictors id =
      if id = w then (Dict.get? s.predictors id).map .emptied else Dict.get? s.predictors id := by
  show Dict.get? (Dict.modify s.predictors w Worker.emptied) id = _
  exact Dict.get?_modify w id _ s.predictors

omit [FloorRing K] [IsStrictOrderedRing K] in
theorem engine_setEngineMetrics (huse : cfg.useEngineMetrics = true) (s : State K) (w id : String) (waiting : K) :
    engine cfg (setEngineMetrics s w (queueSnapshot waiting)) id =
      if id = w then some (queueSnapshot waiting) else engine cfg s id := by
  have hsnap : (setEngineMetrics s w (queueSnapshot waiting)).engineSnap =
      Dict.set s.engineSnap w (queueSnapshot waiting) := rfl
  unfold engine
  rw [if_pos huse, if_pos huse, hsnap, Dict.get?_set]
  by_cases h : w = id
  · rw [if_pos h, if_pos h.symm]; rfl
  · rw [if_neg h, if_neg (Ne.symm h)]

omit [FloorRing K] in
/-- A queue length that makes the second worker clearly dearer. -/
theorem apart_of_queue {s : State K} {id₁ id₂ : String} {w₁ w₂ : Worker K} (hne : id₁ ≠ id₂)
    (h₁ : Dict.get? s.predictors id₁ = some w₁) (h₂ : Dict.get? s.predictors id₂ = some w₂)
    (hh₁ : w₁.nlms.healthy = true) (hh₂ : w₂.nlms.healthy = true) (hf₁ : Feasible cfg w₁) (hf₂ : Feasible cfg w₂)
    (huse : cfg.useEngineMetrics = true) (hcost : 0 < cfg.engineQueueCostMs) :
    ∃ waiting, Apart cfg (setEngineMetrics s id₂ (queueSnapshot waiting)) id₁ id₂ w₁ w₂.emptied := by
  let pkey := cfg.prefixHash ""
  let base := baseCost cfg (setEngineMetrics s id₂ (queueSnapshot 0)) id₂ w₂.emptied 1 "small" pkey
  -- the queue cost that puts the second worker behind the first
  let need := (decision cfg s id₁ w₁ 1 "small" pkey).totalMs + 1 - base - vramCostMs cfg w₂.emptied.nlms
  let s' := setEngineMetrics s id₂ (queueSnapshot (need / cfg.engineQueueCostMs))
  have hslot : w₂.emptied.nlms.healthy = w₂.nlms.healthy := by
    unfold Worker.emptied
    dsimp only
    split <;> rfl
  have hfeas : Feasible cfg w₂.emptied := by
    unfold Feasible Worker.emptied
    split
    · exact hf₂
    · exact hf₂
  refine ⟨need / cfg.engineQueueCostMs, hne, ?_, ?_, hh₁, hslot.trans hh₂, hf₁, hfeas, ?_⟩
  · rw [get?_setEngineMetrics, if_neg hne, h₁]
  · rw [get?_setEngineMetrics, if_pos rfl, h₂]; rfl
  · have hd : decision cfg s' id₁ w₁ 1 "small" pkey = decision cfg s id₁ w₁ 1 "small" pkey := by
      have he : engine cfg s' id₁ = engine cfg s id₁ := by rw [engine_setEngineMetrics huse, if_neg hne]
      have hp : s'.prefixCache = s.prefixCache := rfl
      exact decision_congr he hp w₁ 1 "small" pkey
    have hengine : ∀ x : K, engine cfg (setEngineMetrics s id₂ (queueSnapshot x)) id₂ = some (queueSnapshot x) :=
      fun x => by rw [engine_setEngineMetrics huse, if_pos rfl]
    have hq : engineQueueCostMs cfg s' id₂ = need := by
      unfold engineQueueCostMs
      rw [hengine]
      exact div_mul_cancel₀ need hcost.ne'
    have hkv : ∀ x : K, engineKvCostMs cfg (setEngineMetrics s id₂ (queueSnapshot x)) id₂ = 0 := fun x => by
      unfold engineKvCostMs
      rw [hengine]
      exact zero_mul _
    have hpre : ∀ x : K, enginePrefixMs cfg (setEngineMetrics s id₂ (queueSnapshot x)) id₂ = 0 := fun x => by
      unfold enginePrefixMs
      rw [hengine]
      exact zero_mul _
    have hbase : baseCost cfg s' id₂ w₂.emptied 1 "small" pkey = base := by
      unfold base baseCost decision
      dsimp only
      rw [hkv, hkv, hpre, hpre]
      rfl
    have hle : baseCost cfg s' id₂ w₂.emptied 1 "small" pkey + vramCostMs cfg w₂.emptied.nlms +
        engineQueueCostMs cfg s' id₂ ≤ _ := baseCost_le s' id₂ w₂.emptied 1 "small" pkey
    rw [hbase, hq] at hle
    show (decision cfg s' id₁ w₁ 1 "small" pkey).totalMs + 1 ≤ _
    rw [hd]
    have hneed : need = (decision cfg s id₁ w₁ 1 "small" pkey).totalMs + 1 - base - vramCostMs cfg w₂.emptied.nlms := rfl
    exact le_trans (by linarith) hle

/-- Two workers that can be told apart make the state live. -/
theorem live_of_separable (hg : ObservedGate cfg) {s : Sys K} (hn : (Dict.keys s.sched.predictors).Nodup)
    (hs : Separable cfg s.sched) : Live cfg s := by
  obtain ⟨hm, id₁, id₂, w₁, w₂, hne, h₁, h₂, hf₁, hf₂, hl⟩ := hs
  let s₁ := (Op.setHealthy id₁ true : Op K).exec cfg s
  let s₂ := (Op.setHealthy id₂ true : Op K).exec cfg s₁
  have hr₂ : Reach cfg s s₂ := ((Reach.refl s).snoc (.setHealthy id₁ true) trivial).snoc (.setHealthy id₂ true) trivial
  have hw₁ : Dict.get? s₂.sched.predictors id₁ = some w₁.heal := by
    show Dict.get? (setHealthy (setHealthy s.sched id₁ true) id₂ true).predictors id₁ = _
    rw [get?_setHealthy, if_neg hne, get?_setHealthy, if_pos rfl, h₁]; rfl
  have hw₂ : Dict.get? s₂.sched.predictors id₂ = some w₂.heal := by
    show Dict.get? (setHealthy (setHealthy s.sched id₁ true) id₂ true).predictors id₂ = _
    rw [get?_setHealthy, if_pos rfl, get?_setHealthy, if_neg hne.symm, h₂]; rfl
  -- each lever is one more operation, after which the pick is admitted
  have hstep : ∀ (op : Op K) (w : Worker K), op.Enabled s₂ → Apart cfg (op.exec cfg s₂).sched id₁ id₂ w₁.heal w →
      Live cfg s := by
    intro op w hen hap
    have hr₃ : Reach cfg s (op.exec cfg s₂) := hr₂.snoc op hen
    exact ⟨_, hr₃, smallRequest [id₁, id₂], hap.admits hg hm (by rw [hr₃.keys]; exact hn)⟩
  rcases hl with ⟨hsoft, htot⟩ | ⟨huse, hcost⟩
  · have htot' : 0 < w₂.heal.nlms.totalVramMb := htot
    obtain ⟨free, hap⟩ := apart_of_vram hne hw₁ hw₂ rfl rfl hf₁ hf₂ hsoft htot'
    exact hstep (.setVram id₂ free) _ trivial hap
  · obtain ⟨waiting, hap⟩ := apart_of_queue hne hw₁ hw₂ rfl rfl hf₁ hf₂ huse hcost
    exact hstep (.setEngineMetrics id₂ (queueSnapshot waiting)) _ trivial hap

end Apart

/-! ### States that cannot recover -/

/-- Nothing tells candidates apart: the mode does not look at them, or there is at most one. -/
def OneChoice (cfg : Cfg K) (s : Sys K) : Prop :=
  cfg.admissionMode = .strict ∨ (Dict.keys s.sched.predictors).length ≤ 1

/-- What holds in every continuation of a state `s₀` whose gate no completion can open: the window is
at least as slow as after as many completions of latency zero. -/
def Behind (cfg : Cfg K) (s₀ s : Sys K) : Prop :=
  ∃ j, j + s.inFlight.length ≤ s₀.inFlight.length ∧
    List.Forall₂ (· ≤ ·) (refreshed cfg s₀.sched.recentE2e j) s.sched.recentE2e

omit [FloorRing K] in
theorem candidates_length_le {s : State K} {allowed : Option (List String)} {tokens : Int} {tier : String}
    {pkey : Nat} : (candidates cfg s (eligible s allowed) tokens tier pkey).length ≤ (Dict.keys s.predictors).length := by
  have h1 : (candidates cfg s (eligible s allowed) tokens tier pkey).length ≤ (eligible s allowed).length :=
    List.length_filterMap_le _ _
  have h2 : (eligible s allowed).length ≤ s.healthyIds.length := by
    unfold eligible
    split
    · exact le_refl _
    · exact List.length_filter_le _ _
  have h3 : s.healthyIds.length ≤ (Dict.keys s.predictors).length := by
    simp only [State.healthyIds, Dict.keys, List.length_map]
    exact List.length_filter_le _ _
  omega

/-- With the gate closed and nothing to tell candidates apart, every pick is rejected. -/
theorem rejected_of_closed (hg : ObservedGate cfg) {s : Sys K} (hone : OneChoice cfg s)
    (hclosed : ¬ GateOpen cfg s.sched.recentE2e) (a : PickArgs) : ∃ e, (pick cfg s.sched a).1 = .error e := by
  by_cases hids : eligible s.sched a.allowedBackends = []
  · refine ⟨⟨"no healthy backends registered", cfg.recoveryHintS⟩, ?_⟩
    unfold pick
    dsimp only
    rw [if_pos hids]; rfl
  · rw [pick_eq_pickCost hg.byCost hids]
    refine pickCost_rejects fun best => reject_of_closed hg hclosed ?_
    rcases hone with h | h
    · exact .inl h
    · refine .inr ?_
      unfold worstQuartile
      rw [if_neg]
      rw [List.length_map]
      exact not_le.2 (Nat.lt_succ_of_le (candidates_length_le.trans h))

section Ordered

variable [IsStrictOrderedRing K]

/-- A slower window of the same size does not open a closed gate. -/
theorem not_open_of_behind {s₀ s : Sys K} (hc : ¬ CanOpen cfg s₀) (hb : Behind cfg s₀ s) :
    ¬ GateOpen cfg s.sched.recentE2e := by
  obtain ⟨j, hj, hle⟩ := hb
  intro ho
  refine hc ⟨j, by omega, ?_⟩
  rcases ho with ho | ho
  · exact .inl (by rw [hle.length_eq]; exact ho)
  · exact .inr ((Stats.percentile_le hle _).trans ho)

theorem behind_exec (hg : ObservedGate cfg) {s₀ s : Sys K} (hone : OneChoice cfg s) (hc : ¬ CanOpen cfg s₀)
    (op : Op K) (hb : Behind cfg s₀ s) (hen : op.Enabled s) : Behind cfg s₀ (op.exec cfg s) := by
  have hclosed : ¬ GateOpen cfg s.sched.recentE2e := not_open_of_behind hc hb
  obtain ⟨j, hj, hle⟩ := hb
  cases op with
  | pick a =>
    obtain ⟨e, he⟩ := rejected_of_closed hg hone hclosed a
    refine ⟨j, ?_, ?_⟩
    · show j + (pickedUp s.inFlight (pick cfg s.sched a).1).length ≤ _
      rw [he]; exact hj
    · show List.Forall₂ _ _ (pick cfg s.sched a).2.recentE2e
      rw [(frame_pick cfg s.sched a).recentE2e]; exact hle
  | feedback w e t ok =>
    obtain ⟨hw, hpos⟩ := hen
    have hlen : (s.inFlight.erase w).length + 1 = s.inFlight.length := by
      have := List.length_pos_of_mem hw
      rw [List.length_erase_of_mem hw]; omega
    cases ok with
    | true =>
      refine ⟨j + 1, ?_, ?_⟩
      · show j + 1 + (s.inFlight.erase w).length ≤ _
        omega
      · show List.Forall₂ _ _ (feedback cfg s.sched w e t true).recentE2e
        rw [feedback_recentE2e, if_pos rfl]
        exact Deque.push_forall₂ hle hpos
    | false =>
      refine ⟨j, ?_, hle⟩
      show j + (s.inFlight.erase w).length ≤ _
      omega
  | release w =>
    refine ⟨j, ?_, hle⟩
    have hlen : (s.inFlight.erase w).length ≤ s.inFlight.length := List.length_erase_le
    show j + (s.inFlight.erase w).length ≤ _
    omega
  | setHealthy w h =>
    refine ⟨j, hj, ?_⟩
    show List.Forall₂ _ _ (setHealthy s.sched w h).recentE2e
    rw [(frame_setHealthy s.sched w h).recentE2e]; exact hle
  | setVram w f => exact ⟨j, hj, hle⟩
  | setEngineMetrics w m =>
    refine ⟨j, hj, ?_⟩
    show List.Forall₂ _ _ (setEngineMetrics s.sched w m).recentE2e
    rw [(frame_setEngineMetrics s.sched w m).recentE2e]; exact hle
  | noteFailure w n =>
    refine ⟨j, hj, ?_⟩
    show List.Forall₂ _ _ (noteFailure s.sched w n).2.recentE2e
    rw [(frame_noteFailure s.sched w n).recentE2e]; exact hle
  | resetStats => exact ⟨j, hj, hle⟩

/-- Where nothing tells candidates apart, a state from which no completion can open the gate is a
trap: every later pick is rejected. -/
theorem canOpen_of_live (hg : ObservedGate cfg) {s : Sys K} (hone : OneChoice cfg s) (hl : Live cfg s) :
    CanOpen cfg s := by
  by_contra hc
  obtain ⟨s', hr, a, r, hr'⟩ := hl
  have honeAt : ∀ {t : Sys K}, Reach cfg s t → OneChoice cfg t := by
    intro t ht
    rcases hone with h | h
    · exact .inl h
    · exact .inr (by rw [ht.keys]; exact h)
  have hb : Reach cfg s s' ∧ Behind cfg s s' := by
    refine Reach.invariant (P := fun t => Reach cfg s t ∧ Behind cfg s t) ⟨Reach.refl s, 0, by omega, ?_⟩ ?_ hr
    · exact List.forall₂_same.2 fun _ _ => le_refl _
    · intro t op ⟨ht, hbt⟩ hen
      exact ⟨ht.snoc op hen, behind_exec hg (honeAt ht) hc op hbt hen⟩
  obtain ⟨e, he⟩ := rejected_of_closed hg (honeAt hr) (not_open_of_behind hc hb.2) a
  rw [hr'] at he
  cases he

/-! ### Recovery -/

end Ordered

/-! ### The default configuration -/

section Default

theorem defaultCfg_gate : ObservedGate defaultCfg := ⟨.inl rfl, rfl, .inl rfl⟩

theorem defaultCfg_sane : SaneModel defaultCfg 200 (10 ^ 6) where
  strategy := by decide
  blendLo := by decide +kernel
  blendHi := by decide +kernel
  slopeMax := by decide +kernel
  interceptMax := by decide +kernel
  initialSlope := by decide +kernel
  staticSlope := by decide +kernel
  initialIntercept := by decide +kernel
  staticIntercept := by decide +kernel
  small := by decide +kernel

/-- Eight requests, each completed in six seconds against an SLO of five. -/
def slowEight : List (Op ℚ) :=
  (List.replicate 8 [Op.pick (smallRequest ["gpu0"]), Op.feedback "gpu0" 6000 1 true]).flatten

end Default

end Dio.Scheduler
