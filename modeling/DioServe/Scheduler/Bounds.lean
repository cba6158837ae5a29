/-
Bounds that hold of every worker in every reachable state: a property of a learner that slots,
health and memory do not enter and that updates keep is kept by every operation. The clamped NLMS
and the frozen static model stay within their configured bounds, so their estimates do not overflow.
-/
import DioServe.Scheduler.Gate

namespace Dio.Scheduler

open Data

variable {K : Type}

/-! ## Properties of every worker -/

/-- Every registered worker's learner satisfies `P`. -/
def AllNlms (P : DualTimescaleNlms K → Prop) (s : State K) : Prop := ∀ p ∈ s.predictors, P p.2.nlms

/-- The parameters an estimate reads, and those an update reads to change them. -/
structure Model (K : Type) where
  dual : Bool
  frozen : Bool
  blend : K
  slopeMax : K
  interceptMax : K
  fastSlope : K
  slowSlope : K
  intercept : K

def DualTimescaleNlms.model (m : DualTimescaleNlms K) : Model K :=
  ⟨m.dual, m.frozen, m.blend, m.slopeMax, m.interceptMax, m.fastSlope, m.slowSlope, m.intercept⟩

section All

variable {P : Model K → Prop}

theorem AllNlms.congr {s s' : State K} (hs' : s'.predictors = s.predictors) (h : AllNlms (fun m => P m.model) s) :
    AllNlms (fun m => P m.model) s' := by
  intro p hp; rw [hs'] at hp; exact h p hp

theorem AllNlms.onNlms {s : State K} {id : String} {f : DualTimescaleNlms K → DualTimescaleNlms K}
    (hf : ∀ m, P m.model → P (f m).model) (h : AllNlms (fun m => P m.model) s) :
    AllNlms (fun m => P m.model) (s.onNlms id f) := by
  intro p hp
  obtain ⟨q, hq, rfl⟩ := List.mem_map.1 hp
  dsimp only
  split
  · exact hf _ (h q hq)
  · exact h q hq

theorem AllNlms.setHealthy {s : State K} (id : String) (healthy : Bool) (h : AllNlms (fun m => P m.model) s) :
    AllNlms (fun m => P m.model) (setHealthy s id healthy) := by
  apply AllNlms.congr (predictors_setHealthy s id healthy)
  exact h.onNlms fun _ hm => hm

theorem AllNlms.noteFailure {s : State K} (id : String) (n : Nat) (h : AllNlms (fun m => P m.model) s) :
    AllNlms (fun m => P m.model) (noteFailure s id n).2 := by
  rcases predictors_noteFailure s id n with hp | hp
  · apply AllNlms.congr hp
    exact h.onNlms fun _ hm => hm
  · exact h.congr hp

theorem AllNlms.release {s : State K} (id : String) (h : AllNlms (fun m => P m.model) s) :
    AllNlms (fun m => P m.model) (release s id) := by
  refine h.onNlms fun m hm => ?_
  unfold DualTimescaleNlms.free
  split <;> exact hm

variable [Field K] [LinearOrder K]

theorem AllNlms.setEngineMetrics {s : State K} (id : String) (snap : EngineSnapshot K)
    (h : AllNlms (fun m => P m.model) s) : AllNlms (fun m => P m.model) (setEngineMetrics s id snap) := by
  rcases predictors_setEngineMetrics s id snap with ⟨f, hf, hp⟩ | hp
  · apply AllNlms.congr hp
    apply h.onNlms
    intro m hm
    obtain ⟨free, hm'⟩ := hf m
    rw [hm']
    exact hm
  · exact h.congr hp

theorem AllNlms.feedback (hupd : ∀ (m : DualTimescaleNlms K) e t n, P m.model → P (m.update e t n).2.model)
    {cfg : Cfg K} {s : State K} (id : String) (e2eMs : K) (tokens : Int) (success : Bool) (h : AllNlms (fun m => P m.model) s) :
    AllNlms (fun m => P m.model) (feedback cfg s id e2eMs tokens success) := by
  have htail : AllNlms (fun m => P m.model) (s.onNlms id fun m => { m with inflightLog := m.inflightLog.tail }) :=
    h.onNlms fun _ hm => hm
  unfold Scheduler.feedback
  apply AllNlms.release id
  cases success with
  | false => exact htail.congr rfl
  | true =>
    -- the success branch replaces the worker's learner by its update
    intro p hp
    obtain ⟨q, hq, rfl⟩ := List.mem_map.1 hp
    dsimp only
    split
    · exact hupd _ _ _ _ (htail q hq)
    · exact htail q hq

variable [FloorRing K] {cfg : Cfg K}

omit [Field K] [LinearOrder K] [FloorRing K] in
theorem DualTimescaleNlms.model_markAdmitted (m : DualTimescaleNlms K) : m.markAdmitted.model = m.model := by
  unfold DualTimescaleNlms.markAdmitted DualTimescaleNlms.model
  rfl

theorem AllNlms.pick {s : State K} (a : PickArgs) (h : AllNlms (fun m => P m.model) s) :
    AllNlms (fun m => P m.model) (pick cfg s a).2 := by
  have he := pick_effect cfg s a
  unfold PickEffect at he
  split at he
  · rename_i w d _
    have ho : AllNlms (fun m => P m.model) (s.onNlms w .markAdmitted) :=
      h.onNlms fun m hm => by rw [DualTimescaleNlms.model_markAdmitted]; exact hm
    exact ho.congr he
  · exact h.congr he

/-- A property of the model parameters that updates keep is kept by every operation. -/
theorem AllNlms.exec (hupd : ∀ (m : DualTimescaleNlms K) e t n, P m.model → P (m.update e t n).2.model) {s : Sys K}
    (op : Op K) (h : AllNlms (fun m => P m.model) s.sched) : AllNlms (fun m => P m.model) (op.exec cfg s).sched := by
  cases op with
  | pick a => exact h.pick a
  | feedback w e t ok => exact h.feedback hupd w e t ok
  | release w => exact h.release w
  | setHealthy w b => exact h.setHealthy w b
  | setVram w f => exact h.onNlms fun _ hm => hm
  | setEngineMetrics w m => exact h.setEngineMetrics w m
  | noteFailure w n => exact h.noteFailure w n
  | resetStats => exact h.congr rfl

end All

/-! ## Clamped parameters -/

section Clamped

variable [Field K] [LinearOrder K]

/-- Slopes at most `S`, the intercept at most `B`, and clamps that keep them so. -/
structure Bounded (S B : K) (m : Model K) : Prop where
  blendLo : 0 ≤ m.blend
  blendHi : m.blend ≤ 1
  slopeMax : max (1 / 10) m.slopeMax ≤ S
  interceptMax : max (1 / 10) m.interceptMax ≤ B
  fast : m.fastSlope ≤ S
  slow : m.slowSlope ≤ S
  intercept : m.intercept ≤ B

theorem clamp_le {hi x T : K} (h : max (1 / 10) hi ≤ T) : DualTimescaleNlms.clamp hi x ≤ T :=
  (max_le_max_left _ (min_le_left _ _)).trans h

theorem Bounded.countClip {S B : K} {m : DualTimescaleNlms K} (h : Bounded S B m.model) (pred err : K) (n : Nat) :
    Bounded S B (m.countClip pred err n).model := by
  unfold DualTimescaleNlms.countClip
  split
  · exact h
  · split
    · exact h
    · split <;> exact h

/-- Learning clamps. -/
theorem Bounded.update {S B : K} (m : DualTimescaleNlms K) (e : K) (t : Int) (n : Nat) (h : Bounded S B m.model) :
    Bounded S B (m.update e t n).2.model := by
  have hlearn : Bounded S B ((m.tally e t).learn e t n).model := by
    unfold DualTimescaleNlms.learn
    split
    · exact h
    · have hc : Bounded S B (((m.tally e t).countClip ((m.tally e t).predict t) (e - (m.tally e t).predict t) n)).model :=
        Bounded.countClip (m := m.tally e t) h _ _ n
      exact ⟨hc.blendLo, hc.blendHi, hc.slopeMax, hc.interceptMax, clamp_le hc.slopeMax, clamp_le hc.slopeMax,
        clamp_le hc.interceptMax⟩
  exact hlearn

variable [IsStrictOrderedRing K]

/-- Within the bounds a one-token estimate is at most their sum. -/
theorem Bounded.estimate_le {S B : K} {w : Worker K} (h : Bounded S B w.nlms.model) {cfg : Cfg K}
    (hs : cfg.strategy ≠ .rls) : (estimate cfg w 1).1 ≤ S + B := by
  have h0 := h.blendLo
  have h1 := h.blendHi
  have hfast := h.fast
  have hslow := h.slow
  have hint := h.intercept
  simp only [DualTimescaleNlms.model] at h0 h1 hfast hslow hint
  have heff : w.nlms.effectiveSlope ≤ S := by
    unfold DualTimescaleNlms.effectiveSlope
    split
    · calc w.nlms.blend * w.nlms.fastSlope + (1 - w.nlms.blend) * w.nlms.slowSlope
          ≤ w.nlms.blend * S + (1 - w.nlms.blend) * S :=
            add_le_add (mul_le_mul_of_nonneg_left hfast h0) (mul_le_mul_of_nonneg_left hslow (by linarith))
        _ = S := by ring
    · exact hfast
  have hone : tokenCount 1 = (1 : K) := by simp [tokenCount]
  unfold estimate
  rw [if_neg hs]
  show w.nlms.effectiveSlope * tokenCount 1 + w.nlms.intercept ≤ S + B
  rw [hone, mul_one]
  exact add_le_add heff hint

end Clamped

/-! ## No overflow -/

section Overflow

variable [Field K] [LinearOrder K] [IsStrictOrderedRing K] [FloorRing K]

/-- Bounds on the configured parameters. -/
structure SaneModel (cfg : Cfg K) (S B : K) : Prop where
  strategy : cfg.strategy ≠ .rls
  blendLo : 0 ≤ cfg.blend
  blendHi : cfg.blend ≤ 1
  slopeMax : max (1 / 10) cfg.learnerSlopeMax ≤ S
  interceptMax : max (1 / 10) cfg.learnerInterceptMax ≤ B
  initialSlope : cfg.initialSlope ≤ S
  staticSlope : cfg.staticSlope ≤ S
  initialIntercept : cfg.initialIntercept ≤ B
  staticIntercept : cfg.staticIntercept ≤ B
  small : S + B < overflowMs

omit [IsStrictOrderedRing K] [FloorRing K] in
theorem SaneModel.newWorker {cfg : Cfg K} {S B : K} (h : SaneModel cfg S B) (tier : String) (total : K)
    (free : Option K) : Bounded S B (newWorker cfg tier total free).nlms.model := by
  refine ⟨h.blendLo, h.blendHi, h.slopeMax, h.interceptMax, ?_, ?_, ?_⟩
  · show (if _ then cfg.staticSlope else cfg.initialSlope) ≤ S
    split
    · exact h.staticSlope
    · exact h.initialSlope
  · show (if _ then cfg.staticSlope else cfg.initialSlope) ≤ S
    split
    · exact h.staticSlope
    · exact h.initialSlope
  · show (if _ then cfg.staticIntercept else cfg.initialIntercept) ≤ B
    split
    · exact h.staticIntercept
    · exact h.initialIntercept

omit [LinearOrder K] [IsStrictOrderedRing K] [FloorRing K] in
theorem allNlms_fleet {cfg : Cfg K} {P : DualTimescaleNlms K → Prop}
    (hnew : ∀ tier total free, P (newWorker cfg tier total free).nlms) (regs : List (Registration K)) :
    AllNlms P (fleet cfg regs).sched := by
  have hset : ∀ (d : Dict String (Worker K)) (id : String) (w : Worker K), P w.nlms → (∀ p ∈ d, P p.2.nlms) →
      ∀ p ∈ Dict.set d id w, P p.2.nlms := by
    intro d id w hw hd p hp
    rcases Dict.mem_set hp with rfl | hp
    · exact hw
    · exact hd p hp
  have h : ∀ (rs : List (Registration K)) (s : State K), AllNlms P s →
      AllNlms P (rs.foldl (fun s r => register cfg s r.id r.tier r.totalVramMb r.freeVramMb) s) := by
    intro rs
    induction rs with
    | nil => exact fun _ h => h
    | cons r rs ih => exact fun s hs => ih _ (hset s.predictors r.id _ (hnew _ _ _) hs)
  exact h regs .init fun p hp => by cases hp

/-- A fleet with sane learner bounds never overflows an estimate. -/
theorem SaneModel.noOverflow {cfg : Cfg K} {S B : K} (h : SaneModel cfg S B) {regs : List (Registration K)}
    (hne : regs ≠ []) : NoOverflow cfg (fleet cfg regs) := by
  intro s hs
  have hall : AllNlms (fun m => Bounded S B m.model) s.sched :=
    hs.invariant (P := fun s => AllNlms (fun m => Bounded S B m.model) s.sched)
      (allNlms_fleet (fun tier total free => h.newWorker tier total free) regs)
      fun s op hall _ => AllNlms.exec (fun m e t n hm => Bounded.update m e t n hm) op hall
  obtain ⟨p, hp⟩ : ∃ p, p ∈ s.sched.predictors := by
    refine List.exists_mem_of_ne_nil _ fun hnil => ?_
    have hkeys := hs.keys
    rw [hnil] at hkeys
    exact fleet_ne_nil cfg hne hkeys.symm
  have hn : (Dict.keys s.sched.predictors).Nodup := by rw [hs.keys]; exact nodup_keys_fleet cfg regs
  refine ⟨p.1, p.2, Dict.get?_of_mem_of_nodup hn hp, ?_⟩
  exact lt_of_le_of_lt ((hall p hp).estimate_le h.strategy) h.small

end Overflow

end Dio.Scheduler
