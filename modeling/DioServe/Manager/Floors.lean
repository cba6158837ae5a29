/-
What the Go manager cannot learn. Its learners keep their slopes at the prior or above, so that the cost of a request
has a floor in its length, whatever the workers have shown; past the SLO, that floor is a ceiling on the prompts that
are served at all.
-/
import DioServe.Manager.Server

namespace Dio.Manager

open Data Effect

variable {K : Type} [Field K] [LinearOrder K]

/-! ## The floor of a score -/

/-- A worker whose predictors are above their floors, and that has no more memory free than in all. -/
structure Entry.Floored (e : Entry K) : Prop where
  nlms : e.nlms.Floored
  rls : e.rls.Floored
  vram : e.worker.lastKnownVram ≤ e.nlms.totalVram
  same : e.rls.totalVram = e.nlms.totalVram

theorem tokens_nonneg (req : InferenceRequest) : 0 ≤ req.tokens := by
  unfold InferenceRequest.tokens
  omega

section Score

variable [IsStrictOrderedRing K]

/-- A score is the estimate, less the cache bonus, and more where there is a queue, a mismatch or little memory. -/
theorem le_computeWorkerScore {abl : AblationFlags} {prefixCache : Dict UInt32 String} {req : InferenceRequest} {id : String}
    {w : Worker} {estimate : K × K} {tier : String} {totalVram : Int} {score : K} {d : RoutingDecision K}
    (h : computeWorkerScore abl prefixCache req id w estimate tier totalVram = some (score, d)) (hexec : 0 ≤ estimate.1)
    (havg : 0 ≤ estimate.2) (hvram : w.lastKnownVram ≤ totalVram) : estimate.1 - cacheBonusMs ≤ score := by
  unfold computeWorkerScore at h
  dsimp only at h
  split at h
  · cases h
  split at h
  · cases h
  split at h
  · cases h
  obtain ⟨hscore, -⟩ := Prod.mk.inj (Option.some.inj h)
  have hwait : 0 ≤ if abl.disableQueue = true then (0 : K)
      else (w.pendingTasks : K) / batchSize * if estimate.2 = 0 then estimate.1 else estimate.2 := by
    split
    · exact le_rfl
    · refine mul_nonneg (div_nonneg (Nat.cast_nonneg _) ?_) ?_
      · unfold batchSize
        norm_num
      · split
        · exact hexec
        · exact havg
  have htier : 0 ≤ if (!abl.disableTier) = true ∧ req.tier = "small" ∧ tier = "large" then (tierMismatchMs : K) else 0 := by
    unfold tierMismatchMs
    split <;> norm_num
  have hmemory : 0 ≤ if (!abl.disableVramSoft) = true ∧ totalVram > 0 ∧ w.lastKnownVram < vramSoftLimitMb
      then (1 - (w.lastKnownVram : K) / (totalVram : K)) * 1000 else 0 := by
    split
    · rename_i hsoft
      have htotal : (0 : K) < totalVram := Int.cast_pos.2 hsoft.2.1
      have hshare : (w.lastKnownVram : K) / (totalVram : K) ≤ 1 := (div_le_one htotal).2 (Int.cast_le.2 hvram)
      linarith
    · exact le_rfl
  have hcache : (if (!abl.disableCache) = true ∧ prefixCache.get? (prefixHash req.data) = some id then (cacheBonusMs : K)
      else 0) ≤ cacheBonusMs := by
    unfold cacheBonusMs
    split <;> norm_num
  linarith

theorem big_le_maxFloat64 : (10 : K) ^ 300 ≤ maxFloat64 := by
  have hten : (10 : K) ^ 300 ≤ 2 ^ 1000 :=
    calc
      (10 : K) ^ 300 = (10 ^ 3) ^ 100 := by rw [← pow_mul]
      _ ≤ (2 ^ 10) ^ 100 := pow_le_pow_left₀ (by norm_num) (by norm_num) 100
      _ = 2 ^ 1000 := by rw [← pow_mul]
  have hlow : (2 : K) ^ 971 ≤ 2 ^ 1000 := pow_le_pow_right₀ (by norm_num) (by norm_num)
  have hhigh : (2 : K) ^ 1000 + 2 ^ 1000 ≤ 2 ^ 1024 := by
    rw [← mul_two, ← pow_succ]
    exact pow_le_pow_right₀ (by norm_num) (by norm_num)
  exact le_sub_iff_add_le.2 ((add_le_add hten hlow).trans hhigh)

theorem floor_le_rate {env : Env K} {s : Scheduler K} {req : InferenceRequest} {useRls : Bool} {id : String} {e : Entry K}
    (he : s.workers.get? id = some e) (hfloor : e.Floored) {score : K} {d : RoutingDecision K}
    (h : s.rate env req useRls id = some (score, d)) : floorMs req.tokens - cacheBonusMs ≤ score := by
  have htokens := tokens_nonneg req
  have hopen : ∀ {estimate : K × K} {tier : String} {total : Int},
      computeWorkerScore env.ablation s.prefixCache req id e.worker estimate tier total = some (score, d) →
        estimate.1 ≠ maxFloat64 := by
    intro estimate tier total hscore hmax
    unfold computeWorkerScore at hscore
    dsimp only at hscore
    rw [if_pos (hmax ▸ big_le_maxFloat64)] at hscore
    cases hscore
  have hbound : ∀ {estimate : K × K} {tier : String} {total : Int},
      computeWorkerScore env.ablation s.prefixCache req id e.worker estimate tier total = some (score, d) →
        floorMs req.tokens ≤ estimate.1 → 0 ≤ estimate.2 → e.worker.lastKnownVram ≤ total →
          floorMs req.tokens - cacheBonusMs ≤ score := by
    intro estimate tier total hscore hle havg hvram
    have hexec := (PerWorkerPredictor.floorMs_nonneg htokens).trans hle
    have hleast := le_computeWorkerScore hscore hexec havg hvram
    linarith
  unfold Scheduler.rate at h
  rw [he, Option.bind_some] at h
  split at h
  · split at h
    · have havg : (e.rls.estimate req.tokens e.worker.lastKnownVram).2 = e.rls.averageLatency := by
        unfold PerWorkerRlsPredictor.estimate
        split <;> rfl
      refine hbound h (hfloor.rls.estimate htokens (hopen h)) ?_ (hfloor.same ▸ hfloor.vram)
      rw [havg]
      exact hfloor.rls.averageLatency
    · have havg : (e.nlms.estimate req.tokens e.worker.lastKnownVram).2 = e.nlms.averageLatency := by
        unfold PerWorkerPredictor.estimate
        split <;> rfl
      refine hbound h (hfloor.nlms.estimate htokens (hopen h)) ?_ hfloor.vram
      rw [havg]
      exact hfloor.nlms.averageLatency
  · cases h

end Score

/-! ## Runs -/

section Run

/-- Every worker is above its floors. -/
def Scheduler.Floored (s : Scheduler K) : Prop := ∀ id e, s.workers.get? id = some e → e.Floored

theorem Scheduler.Floored.congr {s s' : Scheduler K} (h : s.Floored) (hs : s'.workers = s.workers) : s'.Floored := by
  intro id e he
  rw [hs] at he
  exact h id e he

theorem Scheduler.Floored.modify {s s' : Scheduler K} (h : s.Floored) {v : String} {f : Entry K → Entry K}
    (hs : s'.workers = s.workers.modify v f) (hf : ∀ e, s.workers.get? v = some e → e.Floored → (f e).Floored) :
    s'.Floored := by
  intro id e he
  rw [hs, Dict.get?_modify] at he
  split at he
  · rename_i hv
    subst hv
    obtain ⟨e₀, he₀, rfl⟩ := Option.map_eq_some_iff.1 he
    exact hf e₀ he₀ (h id e₀ he₀)
  · exact h id e he

variable [IsStrictOrderedRing K]

theorem floored_newPredictor {env : Env K} (hlearns : env.strategy ≠ .static) (tier : String) (vramMb : Int) :
    (Scheduler.newPredictor env tier vramMb).Floored := by
  have hslope : (Scheduler.newPredictor env tier vramMb).fastSlope = initialSlope := if_neg hlearns
  have hintercept : (Scheduler.newPredictor env tier vramMb).intercept = initialIntercept := if_neg hlearns
  refine ⟨decide_eq_false hlearns, hslope.ge, hslope.ge, ?_, le_rfl⟩
  rw [hintercept]
  unfold initialIntercept
  norm_num

theorem Entry.Floored.reset {e : Entry K} (h : e.Floored) : e.reset.Floored := by
  have hintercept : (1 : K) / 10 ≤ initialIntercept := by
    unfold initialIntercept
    norm_num
  exact ⟨⟨h.nlms.learns, le_rfl, le_rfl, hintercept, h.nlms.averageLatency⟩, ⟨le_rfl, hintercept, h.rls.averageLatency⟩,
    h.vram, h.same⟩

theorem Entry.Floored.learn {e : Entry K} (h : e.Floored) {e2eMs : K} (hpos : 0 ≤ e2eMs) (tokens : Int) :
    (e.learn e2eMs tokens).Floored := by
  refine ⟨h.nlms.update hpos tokens _, h.rls.update hpos tokens, ?_, ?_⟩
  · show e.worker.lastKnownVram ≤ (e.nlms.update e2eMs tokens e.worker.lastKnownVram).totalVram
    rw [PerWorkerPredictor.update_totalVram]
    exact h.vram
  · show (e.rls.update e2eMs tokens).totalVram = (e.nlms.update e2eMs tokens e.worker.lastKnownVram).totalVram
    rw [PerWorkerRlsPredictor.update_totalVram, PerWorkerPredictor.update_totalVram]
    exact h.same

/-- The free memory that is reported of a worker is at most what it has. -/
def Move.Honest (l : Server K) : Move K → Prop
  | .setVram id freeMb => ∀ e, l.sched.workers.get? id = some e → freeMb ≤ e.nlms.totalVram
  | _ => True

variable [FloorRing K] {env : Env K}

theorem Scheduler.Floored.feedbackLoop {s : Scheduler K} (h : s.Floored) (id : String) (e2eMs : K) (tokens : Int) :
    (s.feedbackLoop env id e2eMs tokens).Floored := by
  have hlearned : (if e2eMs > 0 then s.complete env id e2eMs tokens else s).Floored := by
    split
    · rename_i hpos
      unfold Scheduler.complete
      cases he : s.workers.get? id with
      | none => exact h.congr rfl
      | some e =>
        have hworkers : ∀ s' : Scheduler K, s'.workers = s.workers.modify id (·.learn e2eMs tokens) → s'.Floored :=
          fun s' hs => h.modify hs fun e _ hfloor => hfloor.learn hpos.le tokens
        exact hworkers _ rfl
    · exact h
  exact hlearned.modify (f := fun e => { e with worker := e.worker.finish }) rfl fun e _ hfloor =>
    ⟨hfloor.nlms, hfloor.rls, hfloor.vram, hfloor.same⟩

/-- Every move keeps the workers above their floors. -/
theorem Scheduler.Floored.exec (hlearns : env.strategy ≠ .static) {l : Server K} (h : l.sched.Floored) {m : Move K}
    (hm : m.Honest l) : (m.exec env l).sched.Floored := by
  cases m with
  | register r =>
    intro id e he
    replace he : Dict.get? (Dict.set l.sched.workers r.workerId _) id = some e := he
    rw [Dict.get?_set] at he
    split at he
    · cases he
      exact ⟨floored_newPredictor hlearns _ _, .new _ _, le_rfl, rfl⟩
    · exact h id e he
  | execute order req =>
    have hp := pick_picked env l.sched order req
    show (l.sched.pickBestWorker env order req).2.Floored
    generalize l.sched.pickBestWorker env order req = r at hp ⊢
    cases hp with
    | admitted w e s' known workers completed predHistory =>
      exact h.modify workers fun e _ hfloor => ⟨hfloor.nlms, hfloor.rls, hfloor.vram, hfloor.same⟩
    | refused err s' workers completed predHistory => exact h.congr workers
  | reply t req o =>
    cases o with
    | undialled => exact h
    | predicted latencyMs promptTokens => exact h.feedbackLoop t.worker _ _
    | failed => exact h.feedbackLoop t.worker _ _
  | setVram id freeMb =>
    exact h.modify (f := fun e => { e with worker := { e.worker with lastKnownVram := freeMb } }) rfl fun e he hfloor =>
      ⟨hfloor.nlms, hfloor.rls, hm e he, hfloor.same⟩
  | resetWorker id => exact h.modify rfl fun e _ hfloor => hfloor.reset
  | resetStats => exact h.congr rfl

/-- An NLMS or RLS manager with its admission on serves no prompt whose floor is past the SLO: after any run, whatever
its workers have shown, and in whatever order they are met, such a request is refused. -/
theorem long_prompts_refused (hstrategy : env.strategy = .nlms ∨ env.strategy = .rls)
    (hadmission : env.admissionDisabled = false) {ms : List (Move K)}
    (hms : Trace.Allowed (Move.exec env) (fun l m => m.Honest l) .init ms) {req : InferenceRequest}
    (hlong : env.effectiveSloMs < floorMs req.tokens - cacheBonusMs) (order : List String) :
    ∃ e, ((Trace.play (Move.exec env) .init ms).sched.pickBestWorker env order req).1 = .error e := by
  have hlearns : env.strategy ≠ .static := by
    rcases hstrategy with h | h <;> rw [h] <;> decide
  have hcost : env.strategy.predictive = true := by
    rcases hstrategy with h | h <;> rw [h] <;> rfl
  have hadmits : env.strategy.admits = true := by
    rcases hstrategy with h | h <;> rw [h] <;> rfl
  have hfloored : (Trace.play (Move.exec env) .init ms).sched.Floored := by
    refine Trace.play_invariant (P := fun l : Server K => l.sched.Floored) (fun l m hl hm => hl.exec hlearns hm) ?_ hms
    intro id e he
    cases he
  generalize (Trace.play (Move.exec env) .init ms).sched = s at hfloored ⊢
  unfold Scheduler.pickBestWorker
  rw [choose_predictive hcost]
  have hstands := stands_pickPredictive env s req env.strategy.useRls order
  generalize s.pickPredictive env req env.strategy.useRls order = c at hstands ⊢
  dsimp only
  unfold Scheduler.settle
  split
  · split
    · split <;> exact ⟨_, rfl⟩
    · exact ⟨_, rfl⟩
  · rename_i hne
    rcases hstands.chosen with ⟨hempty, -⟩ | ⟨d, -, hd, -⟩
    · exact absurd hempty hne
    · obtain ⟨e, he⟩ := known_of_rate hd
      have hover := hlong.trans_le (floor_le_rate he (hfloored _ e he) hd)
      rw [if_pos ⟨by rw [hadmission]; rfl, hadmits, hover⟩]
      exact ⟨_, rfl⟩

end Run

/-! ## Examples -/

/-- 4404 bytes, taken for 1101 tokens. -/
def longPrompt : InferenceRequest := ⟨List.replicate 4404 120, "small"⟩

/-- A worker that has answered within a millisecond. -/
def quickRun : List (Move ℚ) :=
  [.register { workerId := "a", address := "a:1", tier := "small", vramGb := 24000 }, .execute ["a"] hello,
    .reply ⟨0, "a", 1, 1⟩ hello (.predicted 1 100)]

theorem long_prompts_refused_quick : ∃ e,
    ((Trace.play (Move.exec (plainEnv .nlms)) .init quickRun).sched.pickBestWorker (plainEnv .nlms) ["a"] longPrompt).1 =
      .error e := by
  have htokens : longPrompt.tokens = 1101 := by
    unfold InferenceRequest.tokens
    rw [show longPrompt.data.length = 4404 from List.length_replicate]
    rfl
  have hlong : (plainEnv .nlms).effectiveSloMs < floorMs longPrompt.tokens - cacheBonusMs := by
    rw [htokens]
    decide +kernel
  have hms : Trace.Allowed (Move.exec (plainEnv .nlms)) (fun l m => m.Honest l) .init quickRun :=
    ⟨trivial, trivial, trivial, trivial⟩
  exact long_prompts_refused (.inl rfl) rfl hms hlong ["a"]

end Dio.Manager
