/-
Which worker the Go manager picks. Go walks a map in any order: a strategy that picks by cost answers the same in every
order but for ties, and the round robin can be led to any worker by the order alone.
-/
import DioServe.Manager.Scheduler
import Mathlib.Data.List.InsertIdx
import Mathlib.Data.Rat.Floor

namespace Dio.Manager

open Data

variable {K : Type}

/-- A state that differs in its decisions and its rotation at most. -/
structure SameBooks (s s' : Scheduler K) : Prop where
  workers : s'.workers = s.workers
  prefixCache : s'.prefixCache = s.prefixCache
  admission : s'.admission = s.admission
  predHistory : s'.predHistory = s.predHistory

theorem sameBooks_recordChoice (s : Scheduler K) (c : Choice K) : SameBooks s (s.recordChoice c) := by
  unfold Scheduler.recordChoice
  split
  · exact ⟨rfl, rfl, rfl, rfl⟩
  · split <;> exact ⟨rfl, rfl, rfl, rfl⟩

/-! ## The cheapest worker -/

section Choice

variable [Field K] [LinearOrder K]

/-- Where the loop stands after the workers `seen`: at the least score below `math.MaxFloat64`, when there is one. -/
structure Choice.Stands (rate : String → Option (K × RoutingDecision K)) (seen : List String) (c : Choice K) : Prop where
  least : ∀ id ∈ seen, ∀ score d, rate id = some (score, d) → c.minScore ≤ score
  chosen : (c.bestId = "" ∧ c.bestBreakdown = none ∧ c.minScore = maxFloat64) ∨
    ∃ d, c.bestId ∈ seen ∧ rate c.bestId = some (c.minScore, d) ∧ c.bestBreakdown = some d ∧ c.minScore < maxFloat64
  candidate : c.anyCandidate = true ↔ ∃ id ∈ seen, (rate id).isSome

namespace Choice.Stands

variable {rate : String → Option (K × RoutingDecision K)} {seen : List String} {c : Choice K}

theorem start : (Choice.start : Choice K).Stands rate [] :=
  ⟨fun _ h => absurd h List.not_mem_nil, .inl ⟨rfl, rfl, rfl⟩, by simp [Choice.start]⟩

/-- One more worker. -/
theorem consider (h : c.Stands rate seen) (id : String) : (c.consider id (rate id)).Stands rate (seen ++ [id]) := by
  have hseen : ∀ {v}, v ∈ seen → v ∈ seen ++ [id] := fun hv => List.mem_append_left _ hv
  cases hr : rate id with
  | none =>
    refine ⟨fun v hv score d hd => ?_, ?_, ?_⟩
    · rcases List.mem_append.1 hv with hv | hv
      · exact h.least v hv score d hd
      · rw [List.mem_singleton.1 hv, hr] at hd
        cases hd
    · exact h.chosen.imp_right fun ⟨d, hmem, hd⟩ => ⟨d, hseen hmem, hd⟩
    · show c.anyCandidate = true ↔ _
      simp [h.candidate, or_and_right, exists_or, hr]
  | some r =>
    obtain ⟨score, d⟩ := r
    have hcandidate : ∃ v ∈ seen ++ [id], (rate v).isSome := ⟨id, by simp, by rw [hr]; rfl⟩
    by_cases hlt : score < c.minScore
    · have hc : c.consider id (some (score, d)) = ⟨id, score, some d, true⟩ := if_pos hlt
      rw [hc]
      refine ⟨fun v hv score' d' hd' => ?_, .inr ⟨d, by simp, hr, rfl, ?_⟩, iff_of_true rfl hcandidate⟩
      · rcases List.mem_append.1 hv with hv | hv
        · exact hlt.le.trans (h.least v hv score' d' hd')
        · rw [List.mem_singleton.1 hv, hr] at hd'
          cases hd'
          exact le_rfl
      · rcases h.chosen with ⟨-, -, hmin⟩ | ⟨_, -, -, -, hmin⟩
        · exact hlt.trans_eq hmin
        · exact hlt.trans hmin
    · have hc : c.consider id (some (score, d)) = { c with anyCandidate := true } := if_neg hlt
      rw [hc]
      refine ⟨fun v hv score' d' hd' => ?_, ?_, iff_of_true rfl hcandidate⟩
      · rcases List.mem_append.1 hv with hv | hv
        · exact h.least v hv score' d' hd'
        · rw [List.mem_singleton.1 hv, hr] at hd'
          cases hd'
          exact not_lt.1 hlt
      · exact h.chosen.imp_right fun ⟨d, hmem, hd⟩ => ⟨d, hseen hmem, hd⟩

theorem foldl : ∀ {order seen : List String} {c : Choice K}, c.Stands rate seen →
    (order.foldl (fun c id => c.consider id (rate id)) c).Stands rate (seen ++ order)
  | [], seen, c, h => by rwa [List.append_nil]
  | id :: order, seen, c, h => by
    rw [List.foldl_cons, List.append_cons]
    exact foldl (h.consider id)

theorem min_le_max (h : c.Stands rate seen) : c.minScore ≤ maxFloat64 := by
  rcases h.chosen with ⟨-, -, hmin⟩ | ⟨_, -, -, -, hmin⟩
  · exact hmin.le
  · exact hmin.le

variable {seen' : List String} {c' : Choice K}

theorem min_le (h : c.Stands rate seen) (h' : c'.Stands rate seen') (hsub : ∀ id ∈ seen', id ∈ seen) :
    c.minScore ≤ c'.minScore := by
  rcases h'.chosen with ⟨-, -, hmin⟩ | ⟨d, hmem, hd, -⟩
  · exact h.min_le_max.trans_eq hmin.symm
  · exact h.least _ (hsub _ hmem) _ d hd

/-- The loop ends without a worker exactly at `math.MaxFloat64`. -/
theorem bestId_eq_empty_iff (h : c.Stands rate seen) (hid : "" ∉ seen) : c.bestId = "" ↔ c.minScore = maxFloat64 := by
  rcases h.chosen with ⟨hbest, -, hmin⟩ | ⟨d, hmem, -, -, hmin⟩
  · exact iff_of_true hbest hmin
  · refine iff_of_false (fun hbest => hid ?_) hmin.ne
    rwa [hbest] at hmem

end Choice.Stands

theorem stands_pickPredictive (env : Env K) (s : Scheduler K) (req : InferenceRequest) (useRls : Bool) (order : List String) :
    (s.pickPredictive env req useRls order).Stands (s.rate env req useRls) order := by
  have hstart : (Choice.start : Choice K).Stands (s.rate env req useRls) [] := Choice.Stands.start
  have h : (s.pickPredictive env req useRls order).Stands (s.rate env req useRls) ([] ++ order) := hstart.foldl
  rwa [List.nil_append] at h

end Choice

/-! ## Order -/

section Order

variable [Field K] [LinearOrder K] {env : Env K} {s : Scheduler K} {req : InferenceRequest}

/-- Whether the strategy picks by the least squares. -/
def Strategy.useRls (st : Strategy) : Bool := st = .rls

theorem choose_predictive (hcost : env.strategy.predictive = true) (s : Scheduler K) (order : List String)
    (req : InferenceRequest) : s.choose env order req =
      some (s.pickPredictive env req env.strategy.useRls order,
        s.recordChoice (s.pickPredictive env req env.strategy.useRls order)) := by
  unfold Scheduler.choose
  cases hs : env.strategy with
  | roundRobin | leastLoaded | latencyBased | session => rw [hs] at hcost; cases hcost
  | rls => rfl
  | static | nlms | other name => rfl

variable [FloorRing K]

/-- Two choices that agree but for the worker, and both have one or none, are settled alike. -/
theorem settle_agree (env : Env K) (req : InferenceRequest) {s s' : Scheduler K} {c c' : Choice K} (hbooks : s.admission = s'.admission)
    (hmin : c.minScore = c'.minScore) (hany : c.anyCandidate = c'.anyCandidate) (hempty : c.bestId = "" ↔ c'.bestId = "")
    (hknown : (s.workers.get? c.bestId).isSome = (s'.workers.get? c'.bestId).isSome) :
    (s.settle env c req).2.admission = (s'.settle env c' req).2.admission ∧
      ((∃ e, (s.settle env c req).1 = .error e ∧ (s'.settle env c' req).1 = .error e) ∨
        ((s.settle env c req).1 = .ok c.bestId ∧ (s'.settle env c' req).1 = .ok c'.bestId ∧ c.bestId ≠ "")) := by
  unfold Scheduler.settle
  rw [← hmin, ← hany, ← hknown]
  by_cases hb : c.bestId = ""
  · rw [if_pos hb, if_pos (hempty.1 hb)]
    split
    · split
      · exact ⟨by simp [Scheduler.onAdmission, hbooks], .inl ⟨_, rfl, rfl⟩⟩
      · exact ⟨by simp [Scheduler.onAdmission, hbooks], .inl ⟨_, rfl, rfl⟩⟩
    · exact ⟨by simp [Scheduler.onAdmission, hbooks], .inl ⟨_, rfl, rfl⟩⟩
  · rw [if_neg hb, if_neg fun h => hb (hempty.2 h)]
    split
    · exact ⟨by simp [Scheduler.onAdmission, hbooks], .inl ⟨_, rfl, rfl⟩⟩
    · split
      · exact ⟨by simp [Scheduler.admitOn, Scheduler.onAdmission, Scheduler.onWorker, hbooks], .inr ⟨rfl, rfl, hb⟩⟩
      · exact ⟨hbooks, .inr ⟨rfl, rfl, hb⟩⟩

/-- The worker `w` is a cheapest one of `order`, at `score`. -/
def Cheapest (env : Env K) (s : Scheduler K) (req : InferenceRequest) (order : List String) (w : String) (score : K) : Prop :=
  (∃ d, w ∈ order ∧ s.rate env req env.strategy.useRls w = some (score, d)) ∧
    ∀ id ∈ order, ∀ score' d, s.rate env req env.strategy.useRls id = some (score', d) → score ≤ score'

/-- Picking by cost, every order in which the workers can be met leads to the same answer and the same counters, but
for the choice between equally cheap workers. -/
theorem pick_order_free (hcost : env.strategy.predictive = true) {order order' : List String} (hperm : order.Perm order')
    (hid : "" ∉ order) :
    (s.pickBestWorker env order req).2.admission = (s.pickBestWorker env order' req).2.admission ∧
      ((∃ e, (s.pickBestWorker env order req).1 = .error e ∧ (s.pickBestWorker env order' req).1 = .error e) ∨
        ∃ w w' score, (s.pickBestWorker env order req).1 = .ok w ∧ (s.pickBestWorker env order' req).1 = .ok w' ∧
          Cheapest env s req order w score ∧ Cheapest env s req order w' score) := by
  have hc := stands_pickPredictive env s req env.strategy.useRls order
  have hc' := stands_pickPredictive env s req env.strategy.useRls order'
  unfold Scheduler.pickBestWorker
  rw [choose_predictive hcost, choose_predictive hcost]
  dsimp only
  generalize s.pickPredictive env req env.strategy.useRls order = c at hc ⊢
  generalize s.pickPredictive env req env.strategy.useRls order' = c' at hc' ⊢
  have hbooks := sameBooks_recordChoice s c
  have hbooks' := sameBooks_recordChoice s c'
  have hmin : c.minScore = c'.minScore :=
    le_antisymm (hc.min_le hc' fun _ h => hperm.mem_iff.2 h) (hc'.min_le hc fun _ h => hperm.mem_iff.1 h)
  have hany : c.anyCandidate = c'.anyCandidate := by
    rw [Bool.eq_iff_iff, hc.candidate, hc'.candidate]
    simp only [hperm.mem_iff]
  have hempty : c.bestId = "" ↔ c'.bestId = "" := by
    rw [hc.bestId_eq_empty_iff hid, hc'.bestId_eq_empty_iff fun h => hid (hperm.mem_iff.2 h), hmin]
  have hcheapest : ∀ {b : Choice K} {seen : List String}, b.Stands (s.rate env req env.strategy.useRls) seen →
      (∀ id, id ∈ seen ↔ id ∈ order) → b.bestId ≠ "" → Cheapest env s req order b.bestId b.minScore := by
    intro b seen hb hseen hne
    rcases hb.chosen with ⟨hempty, -⟩ | ⟨d, hmem, hd, -⟩
    · exact absurd hempty hne
    · exact ⟨⟨d, (hseen _).1 hmem, hd⟩, fun id hmem score d hd => hb.least id ((hseen id).2 hmem) score d hd⟩
  have hknown : ∀ {b : Choice K} {seen : List String}, b.Stands (s.rate env req env.strategy.useRls) seen →
      b.bestId ≠ "" → (s.workers.get? b.bestId).isSome := by
    intro b seen hb hne
    rcases hb.chosen with ⟨hempty, -⟩ | ⟨d, -, hd, -⟩
    · exact absurd hempty hne
    · unfold Scheduler.rate at hd
      cases he : s.workers.get? b.bestId with
      | none => rw [he] at hd; cases hd
      | some e => rfl
  have hsame : ((s.recordChoice c).workers.get? c.bestId).isSome = ((s.recordChoice c').workers.get? c'.bestId).isSome := by
    rw [hbooks.workers, hbooks'.workers]
    by_cases hb : c.bestId = ""
    · rw [hb, hempty.1 hb]
    · rw [hknown hc hb, hknown hc' fun h => hb (hempty.2 h)]
  have hadmission : (s.recordChoice c).admission = (s.recordChoice c').admission :=
    hbooks.admission.trans hbooks'.admission.symm
  have hagree := settle_agree env req hadmission hmin hany hempty hsame
  refine ⟨hagree.1, hagree.2.imp_right ?_⟩
  rintro ⟨hok, hok', hne⟩
  have hne' : c'.bestId ≠ "" := fun h => hne (hempty.2 h)
  refine ⟨c.bestId, c'.bestId, c.minScore, hok, hok', hcheapest hc (fun _ => Iff.rfl) hne, ?_⟩
  rw [hmin]
  exact hcheapest hc' (fun _ => hperm.mem_iff.symm) hne'

/-- The round robin picks any healthy worker, wherever its rotation stands, when the workers are met in a suitable order. -/
theorem round_robin_any (hrr : env.strategy = .roundRobin) {w : String} (hw : w ≠ "") {e : Entry K}
    (he : s.workers.get? w = some e) (hhealthy : e.worker.isHealthy = true) :
    ∃ order, order.Perm (Dict.keys s.workers) ∧ (s.pickBestWorker env order req).1 = .ok w := by
  let healthy : String → Bool := fun id => (s.workers.get? id).any (·.worker.isHealthy)
  let ids := (Dict.keys s.workers).filter healthy
  let k := (s.rrIndex + 1).toNat % ids.length
  have hany : healthy w = true := by
    show (s.workers.get? w).any _ = true
    rw [he]
    exact hhealthy
  have hmem : w ∈ ids := List.mem_filter.2 ⟨Dict.mem_keys_of_get? he, hany⟩
  have hlength : (ids.erase w).length + 1 = ids.length := by
    have hpos := List.length_pos_of_mem hmem
    rw [List.length_erase_of_mem hmem]
    omega
  have hk : k ≤ (ids.erase w).length := by
    have hlt : k < ids.length := Nat.mod_lt _ (List.length_pos_of_mem hmem)
    omega
  -- the worker is put where the rotation looks next
  let turn := (ids.erase w).insertIdx k w
  have hturn : turn.Perm ids := (List.perm_insertIdx w _ hk).trans (List.perm_cons_erase hmem).symm
  have hall : turn.filter healthy = turn :=
    List.filter_eq_self.2 fun id hid => (List.mem_filter.1 (hturn.mem_iff.1 hid)).2
  have hrest : ((Dict.keys s.workers).filter fun id => !healthy id).filter healthy = [] := by
    rw [List.filter_filter, List.filter_eq_nil_iff]
    intro id _
    simp
  refine ⟨turn ++ (Dict.keys s.workers).filter fun id => !healthy id, ?_, ?_⟩
  · exact (hturn.append_right _).trans (List.filter_append_perm healthy _)
  · have hids : s.healthyWorkerIds (turn ++ (Dict.keys s.workers).filter fun id => !healthy id) = turn := by
      show List.filter healthy _ = turn
      rw [List.filter_append, hall, hrest, List.append_nil]
    have hne : turn ≠ [] := by
      intro h
      have hlen := hturn.length_eq
      rw [h, List.length_nil] at hlen
      exact absurd hmem (by rw [List.length_eq_zero_iff.1 hlen.symm]; exact List.not_mem_nil)
    have hpicked : turn.getD ((s.rrIndex + 1).toNat % turn.length) "" = w := by
      rw [hturn.length_eq]
      show ((ids.erase w).insertIdx k w).getD k "" = w
      simp [List.getD_eq_getElem?_getD, List.getElem?_insertIdx_self, hk]
    unfold Scheduler.pickBestWorker Scheduler.choose
    rw [hrr]
    dsimp only
    rw [hids, if_neg hne]
    dsimp only
    unfold Scheduler.settle
    dsimp only
    rw [hpicked, if_neg hw, hrr]
    split
    · rename_i hslo
      exact absurd hslo.2.1 (by decide)
    · split <;> rfl

end Order

/-! ## Examples -/

/-- A manager with nothing set but its strategy. -/
def plainEnv (strategy : Strategy) : Env ℚ :=
  ⟨strategy, false, ⟨false, false, false, false, false, false⟩, .unset, false, .unset, .unset⟩

def twoWorkers (strategy : Strategy) : Scheduler ℚ :=
  (Scheduler.registerWorker (plainEnv strategy) .new "a" "a:1" "small" 24000).registerWorker (plainEnv strategy) "b" "b:1"
    "small" 24000

def hello : InferenceRequest := ⟨[104, 101, 108, 108, 111], "small"⟩

theorem pick_order_free_two :
    ((twoWorkers .nlms).pickBestWorker (plainEnv .nlms) ["a", "b"] hello).2.admission =
        ((twoWorkers .nlms).pickBestWorker (plainEnv .nlms) ["b", "a"] hello).2.admission ∧
      ((∃ e, ((twoWorkers .nlms).pickBestWorker (plainEnv .nlms) ["a", "b"] hello).1 = .error e ∧
          ((twoWorkers .nlms).pickBestWorker (plainEnv .nlms) ["b", "a"] hello).1 = .error e) ∨
        ∃ w w' score, ((twoWorkers .nlms).pickBestWorker (plainEnv .nlms) ["a", "b"] hello).1 = .ok w ∧
          ((twoWorkers .nlms).pickBestWorker (plainEnv .nlms) ["b", "a"] hello).1 = .ok w' ∧
          Cheapest (plainEnv .nlms) (twoWorkers .nlms) hello ["a", "b"] w score ∧
          Cheapest (plainEnv .nlms) (twoWorkers .nlms) hello ["a", "b"] w' score) :=
  pick_order_free rfl (.swap _ _ _) (by decide)

theorem round_robin_any_b : ∃ order, order.Perm ["a", "b"] ∧
    ((twoWorkers .roundRobin).pickBestWorker (plainEnv .roundRobin) order hello).1 = .ok "b" :=
  round_robin_any rfl (by decide) (show (twoWorkers .roundRobin).workers.get? "b" = some _ from rfl) rfl

end Dio.Manager
