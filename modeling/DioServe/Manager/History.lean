/-
The error statistics of the Go manager (`PredHistory` of `metrics.go`). The history keeps a bounded window of samples
and running sums beside it, from which it takes what leaves the window; what it exports is always the mean over the
window, and the window is always the last of what was recorded.
-/
import DioServe.Data.Deque
import DioServe.Manager.Server
import Mathlib.Algebra.BigOperators.Group.List.Basic

namespace Dio.Manager

open Data Effect

variable {K : Type}

/-! ## The window -/

/-- What `Snapshot` exports. -/
structure PredExport (K : Type) where
  count : Nat
  maeMs : K
  mapePct : K
  samples : List (PredSample K)

section Window

variable [Field K]

/-- `PredHistory.Snapshot`. -/
def PredHistory.snapshot (h : PredHistory K) (limit : Int) : PredExport K where
  count := h.n
  maeMs := if h.n > 0 then h.sumAbs / h.n else 0
  mapePct := if h.n > 0 then h.sumRel / h.n * 100 else 0
  samples :=
    if limit > 0 ∧ (h.samples.length : Int) > limit then h.samples.drop (h.samples.length - limit.toNat) else h.samples

/-- The window is the last of what was recorded, and the sums are over the window. -/
structure PredHistory.Keeps (h : PredHistory K) (recorded : List (PredSample K)) : Prop where
  max : h.max = predHistoryCap
  samples : h.samples = Deque.lastN predHistoryCap recorded
  n : h.n = h.samples.length
  sumAbs : h.sumAbs = (h.samples.map PredSample.absErr).sum
  sumRel : h.sumRel = (h.samples.map PredSample.relErr).sum

theorem PredHistory.keeps_new : (PredHistory.new predHistoryCap : PredHistory K).Keeps [] := by
  have hpos : ¬ ((predHistoryCap : Nat) : Int) ≤ 0 := by decide
  refine ⟨?_, List.drop_nil.symm, rfl, rfl, rfl⟩
  show (if ((predHistoryCap : Nat) : Int) ≤ 0 then 5000 else ((predHistoryCap : Nat) : Int).toNat) = predHistoryCap
  rw [if_neg hpos, Int.toNat_natCast]

theorem length_lastN {α : Type} (n : Nat) (xs : List α) : (Deque.lastN n xs).length = min n xs.length := by
  unfold Deque.lastN
  rw [List.length_drop]
  omega

/-- One more sample: what leaves the window leaves the sums. -/
theorem PredHistory.Keeps.add {h : PredHistory K} {recorded : List (PredSample K)} (hk : h.Keeps recorded)
    (x : PredSample K) : (h.add x).Keeps (recorded ++ [x]) := by
  have hwindow : Deque.lastN predHistoryCap (recorded ++ [x]) = Deque.push predHistoryCap h.samples x := by
    rw [hk.samples, Deque.push_lastN]
  have hle : h.samples.length ≤ predHistoryCap := by
    rw [hk.samples, length_lastN]
    exact Nat.min_le_left _ _
  have hn := hk.n
  have habs := hk.sumAbs
  have hrel := hk.sumRel
  unfold PredHistory.add
  cases hs : h.samples with
  | nil =>
    rw [hs] at hn habs hrel hwindow
    have hpush : Deque.push predHistoryCap [] x = [x] := Deque.push_of_lt (by simp [predHistoryCap]) x
    refine ⟨hk.max, (hwindow.trans hpush).symm, ?_, ?_, ?_⟩
    · simp [hn]
    · simp [habs]
    · simp [hrel]
  | cons old rest =>
    rw [hs] at hn habs hrel hwindow hle
    rw [List.map_cons, List.sum_cons] at habs hrel
    dsimp only
    rw [hk.max]
    by_cases hfull : (old :: rest).length ≥ predHistoryCap
    · rw [if_pos hfull]
      have hdrop : Deque.push predHistoryCap (old :: rest) x = rest ++ [x] := by
        unfold Deque.push
        rw [show (old :: rest).length + 1 - predHistoryCap = 1 by omega]
        rfl
      refine ⟨rfl, (hwindow.trans hdrop).symm, ?_, ?_, ?_⟩
      · simp [hn]
      · rw [List.map_append, List.sum_append, habs]
        simp
      · rw [List.map_append, List.sum_append, hrel]
        simp
    · rw [if_neg hfull]
      have hpush : Deque.push predHistoryCap (old :: rest) x = old :: rest ++ [x] := Deque.push_of_lt (by omega) x
      refine ⟨rfl, (hwindow.trans hpush).symm, ?_, ?_, ?_⟩
      · simp [hn]
      · simp [habs, add_assoc]
      · simp [hrel, add_assoc]

theorem PredHistory.Keeps.foldl {h : PredHistory K} : ∀ {xs recorded : List (PredSample K)}, h.Keeps recorded →
    (xs.foldl .add h).Keeps (recorded ++ xs) := by
  intro xs
  induction xs generalizing h with
  | nil =>
    intro recorded hk
    rwa [List.append_nil]
  | cons x xs ih =>
    intro recorded hk
    have hnext := ih (hk.add x)
    rwa [List.append_assoc] at hnext

end Window

/-! ## Runs -/

section Run

variable [Field K] [LinearOrder K]

/-- The errors of a sample are those of its prediction. -/
structure PredSample.Faithful (x : PredSample K) : Prop where
  absErr : x.absErr = |x.actual - x.predicted|
  relErr : x.relErr = |x.actual - x.predicted| / max x.actual 1

/-- The sample that a report leaves in the history, when it leaves one. -/
def Scheduler.sampled (s : Scheduler K) (id : String) (e2eMs : K) (tokens : Int) : List (PredSample K) :=
  if e2eMs > 0 then
    (s.workers.get? id).toList.flatMap fun e =>
      if e.nlms.base tokens > 0 ∧ e.nlms.base tokens < 10 ^ 300 then [Scheduler.predSample id e e2eMs tokens] else []
  else []

theorem faithful_sampled (s : Scheduler K) (id : String) (e2eMs : K) (tokens : Int) :
    ∀ x ∈ s.sampled id e2eMs tokens, x.Faithful := by
  intro x hx
  unfold Scheduler.sampled at hx
  split at hx
  · obtain ⟨e, -, hx⟩ := List.mem_flatMap.1 hx
    split at hx
    · rw [List.mem_singleton.1 hx]
      exact ⟨rfl, rfl⟩
    · cases hx
  · cases hx

/-- What a move records, after what was recorded since the last reset. -/
def Move.record (s : Scheduler K) (recorded : List (PredSample K)) : Move K → List (PredSample K)
  | .reply t req (.predicted latencyMs promptTokens) =>
    recorded ++ s.sampled t.worker latencyMs (if promptTokens > 0 then promptTokens else req.data.length / 4)
  | .resetStats => []
  | _ => recorded

/-- The manager, and all that was recorded since the last reset. -/
structure Archive (K : Type) where
  server : Server K
  recorded : List (PredSample K)

variable [FloorRing K]

def Move.archive (env : Env K) (m : Move K) (a : Archive K) : Archive K :=
  ⟨m.exec env a.server, m.record a.server.sched a.recorded⟩

def Archive.init : Archive K := ⟨.init, []⟩

/-- The statistics are of what was recorded, and every completion was within the SLO or past it. -/
structure Archive.Exact (a : Archive K) : Prop where
  keeps : a.server.sched.predHistory.Keeps a.recorded
  faithful : ∀ x ∈ a.recorded, x.Faithful
  completed : a.server.sched.admission.completedTotal =
    a.server.sched.admission.completedUnderSlo + a.server.sched.admission.completedOverSlo

theorem recordCompletion_completed {a : AdmissionStats} {sloMs e2eMs : K} (predictedMs : K) (hpos : e2eMs > 0)
    (h : a.completedTotal = a.completedUnderSlo + a.completedOverSlo) :
    (a.recordCompletion sloMs e2eMs predictedMs).completedTotal =
      (a.recordCompletion sloMs e2eMs predictedMs).completedUnderSlo +
        (a.recordCompletion sloMs e2eMs predictedMs).completedOverSlo := by
  unfold AdmissionStats.recordCompletion
  dsimp only
  by_cases hslo : e2eMs ≤ sloMs
  · rw [if_pos ⟨hpos, hslo⟩, if_neg fun hover => hover.2 hslo]
    omega
  · rw [if_neg fun hunder => hslo hunder.2, if_pos ⟨hpos, hslo⟩]
    omega

/-- A report leaves its sample in the history and is counted once. -/
theorem feedbackLoop_books (env : Env K) (s : Scheduler K) (id : String) (e2eMs : K) (tokens : Int) :
    (s.feedbackLoop env id e2eMs tokens).predHistory = (s.sampled id e2eMs tokens).foldl .add s.predHistory ∧
      (s.admission.completedTotal = s.admission.completedUnderSlo + s.admission.completedOverSlo →
        (s.feedbackLoop env id e2eMs tokens).admission.completedTotal =
          (s.feedbackLoop env id e2eMs tokens).admission.completedUnderSlo +
            (s.feedbackLoop env id e2eMs tokens).admission.completedOverSlo) := by
  show (if e2eMs > 0 then s.complete env id e2eMs tokens else s).predHistory = _ ∧ (_ →
    (if e2eMs > 0 then s.complete env id e2eMs tokens else s).admission.completedTotal =
      (if e2eMs > 0 then s.complete env id e2eMs tokens else s).admission.completedUnderSlo +
        (if e2eMs > 0 then s.complete env id e2eMs tokens else s).admission.completedOverSlo)
  unfold Scheduler.sampled
  by_cases hpos : e2eMs > 0
  · rw [if_pos hpos, if_pos hpos]
    unfold Scheduler.complete
    cases s.workers.get? id with
    | none => exact ⟨rfl, recordCompletion_completed 0 hpos⟩
    | some e =>
      refine ⟨?_, recordCompletion_completed (e.nlms.base tokens) hpos⟩
      simp only [Option.toList_some, List.flatMap_cons, List.flatMap_nil, List.append_nil]
      split <;> rfl
  · rw [if_neg hpos, if_neg hpos]
    exact ⟨rfl, fun h => h⟩

variable [IsStrictOrderedRing K]

theorem Archive.Exact.archive {env : Env K} {a : Archive K} (h : a.Exact) (m : Move K) : (m.archive env a).Exact := by
  have hkeep : ∀ a' : Archive K, a'.server.sched.predHistory = a.server.sched.predHistory → a'.recorded = a.recorded →
      a'.server.sched.admission.completedTotal = a.server.sched.admission.completedTotal ∧
        a'.server.sched.admission.completedUnderSlo = a.server.sched.admission.completedUnderSlo ∧
        a'.server.sched.admission.completedOverSlo = a.server.sched.admission.completedOverSlo → a'.Exact := by
    rintro a' hhistory hrecorded ⟨htotal, hunder, hover⟩
    refine ⟨?_, ?_, ?_⟩
    · rw [hhistory, hrecorded]
      exact h.keeps
    · rw [hrecorded]
      exact h.faithful
    · rw [htotal, hunder, hover]
      exact h.completed
  cases m with
  | register r => exact hkeep _ rfl rfl ⟨rfl, rfl, rfl⟩
  | execute order req =>
    have hp := pick_picked env a.server.sched order req
    have hsched : ((Move.execute order req).archive env a).server.sched =
        (a.server.sched.pickBestWorker env order req).2 := rfl
    generalize a.server.sched.pickBestWorker env order req = r at hp hsched
    cases hp with
    | admitted w e s' known workers completed predHistory =>
      exact hkeep _ ((congrArg _ hsched).trans predHistory) rfl (hsched ▸ completed)
    | refused err s' workers completed predHistory =>
      exact hkeep _ ((congrArg _ hsched).trans predHistory) rfl (hsched ▸ completed)
  | reply t req o =>
    cases o with
    | undialled => exact hkeep _ rfl rfl ⟨rfl, rfl, rfl⟩
    | predicted latencyMs promptTokens =>
      have hbooks := feedbackLoop_books env a.server.sched t.worker latencyMs
        (if promptTokens > 0 then promptTokens else req.data.length / 4)
      refine ⟨?_, fun x hx => ?_, hbooks.2 h.completed⟩
      · show PredHistory.Keeps (Scheduler.feedbackLoop env a.server.sched t.worker latencyMs _).predHistory (_ ++ _)
        rw [hbooks.1]
        exact h.keeps.foldl
      · rcases List.mem_append.1 hx with hx | hx
        · exact h.faithful x hx
        · exact faithful_sampled _ _ _ _ x hx
    | failed =>
      have hneg : ¬ (-1 : K) > 0 := by norm_num
      have hsame : (if (-1 : K) > 0 then a.server.sched.complete env t.worker (-1) 0 else a.server.sched) = a.server.sched :=
        if_neg hneg
      have hsched : ((Move.reply t req .failed).archive env a).server.sched = a.server.sched.onWorker t.worker .finish :=
        congrArg (Scheduler.onWorker · t.worker .finish) hsame
      exact hkeep _ (by rw [hsched]; rfl) rfl (by rw [hsched]; exact ⟨rfl, rfl, rfl⟩)
  | setVram id freeMb => exact hkeep _ rfl rfl ⟨rfl, rfl, rfl⟩
  | resetWorker id => exact hkeep _ rfl rfl ⟨rfl, rfl, rfl⟩
  | resetStats => exact ⟨PredHistory.keeps_new, fun _ hx => absurd hx List.not_mem_nil, rfl⟩

omit [FloorRing K] in
/-- A mean over `n` samples is their sum over `n`, and nothing over none. -/
theorem mean_mul (sum : K) {n : Nat} (hsum : n = 0 → sum = 0) : (if n > 0 then sum / n else 0) * n = sum := by
  split
  · rename_i hpos
    exact div_mul_cancel₀ sum (Nat.cast_ne_zero.2 hpos.ne')
  · rename_i hzero
    rw [hsum (by omega), zero_mul]

/-- What the manager exports of its predictions is true after any run: it counts the window, the window is the last
5000 samples since the last reset, the errors are the means over it, and what was completed was within the SLO or past
it. -/
theorem exported_errors_exact (env : Env K) (ms : List (Move K)) (limit : Int) :
    let a := Trace.play (Move.archive env) .init ms
    let window := Deque.lastN predHistoryCap a.recorded
    let out := a.server.sched.predHistory.snapshot limit
    out.count = window.length ∧
      out.maeMs * out.count = (window.map fun x => |x.actual - x.predicted|).sum ∧
      out.mapePct * out.count = (window.map fun x => |x.actual - x.predicted| / max x.actual 1).sum * 100 ∧
      out.samples = (if limit > 0 then Deque.lastN limit.toNat window else window) ∧
      a.server.sched.admission.completedTotal =
        a.server.sched.admission.completedUnderSlo + a.server.sched.admission.completedOverSlo := by
  have hinit : (Archive.init : Archive K).Exact := ⟨PredHistory.keeps_new, fun _ hx => absurd hx List.not_mem_nil, rfl⟩
  have hany : Trace.Allowed (Move.archive env) (fun _ _ => True) Archive.init ms :=
    Trace.allowed_iff_forall.2 fun _ _ => trivial
  have hexact : (Trace.play (Move.archive env) .init ms).Exact :=
    Trace.play_invariant (fun a m h _ => h.archive m) hinit hany
  intro a window out
  have hkeeps := hexact.keeps
  have hsamples : a.server.sched.predHistory.samples = window := hkeeps.samples
  have hn : a.server.sched.predHistory.n = window.length := by rw [hkeeps.n, hsamples]
  have hmem : ∀ x ∈ window, x.Faithful := fun x hx => hexact.faithful x (List.mem_of_mem_drop hx)
  have hempty : ∀ f : PredSample K → K, window.length = 0 → (window.map f).sum = 0 := by
    intro f h
    rw [List.length_eq_zero_iff.1 h]
    rfl
  have habs : window.map PredSample.absErr = window.map fun x => |x.actual - x.predicted| :=
    List.map_congr_left fun x hx => (hmem x hx).absErr
  have hrel : window.map PredSample.relErr = window.map fun x => |x.actual - x.predicted| / max x.actual 1 :=
    List.map_congr_left fun x hx => (hmem x hx).relErr
  refine ⟨hn, ?_, ?_, ?_, hexact.completed⟩
  · show (if a.server.sched.predHistory.n > 0 then a.server.sched.predHistory.sumAbs / a.server.sched.predHistory.n else 0) *
      (a.server.sched.predHistory.n : K) = _
    rw [hkeeps.sumAbs, hsamples, hn, habs]
    exact mean_mul _ (hempty _)
  · have hscale : ∀ sum : K, (if window.length > 0 then sum / (window.length : K) * 100 else 0) =
        (if window.length > 0 then sum / (window.length : K) else 0) * 100 := by
      intro sum
      split
      · rfl
      · rw [zero_mul]
    show (if a.server.sched.predHistory.n > 0 then a.server.sched.predHistory.sumRel / a.server.sched.predHistory.n * 100
      else 0) * (a.server.sched.predHistory.n : K) = _
    rw [hkeeps.sumRel, hsamples, hn, hrel, hscale, mul_right_comm, mean_mul _ (hempty _)]
  · show (if limit > 0 ∧ (a.server.sched.predHistory.samples.length : Int) > limit then _ else _) = _
    rw [hsamples]
    by_cases hlimit : limit > 0
    · rw [if_pos hlimit]
      by_cases hlong : (window.length : Int) > limit
      · rw [if_pos ⟨hlimit, hlong⟩]
        rfl
      · rw [if_neg fun h => hlong h.2]
        unfold Deque.lastN
        rw [show window.length - limit.toNat = 0 by omega, List.drop_zero]
    · rw [if_neg hlimit, if_neg fun h => hlimit h.1]

end Run

/-! ## Examples -/

/-- A call that is answered after two seconds, and one that fails. -/
def answeredRun : List (Move ℚ) :=
  [.register { workerId := "a", address := "a:1", tier := "small", vramGb := 24000 }, .execute ["a"] hello,
    .reply ⟨0, "a", 1, 1⟩ hello (.predicted 2000 100), .execute ["a"] hello, .reply ⟨1, "a", 1, 1⟩ hello .failed]

def answeredArchive : Archive ℚ := Trace.play (Move.archive (plainEnv .leastLoaded)) .init answeredRun

theorem exported_errors_exact_answered :
    (answeredArchive.server.sched.predHistory.snapshot 0).count = 1 ∧
      answeredArchive.server.sched.admission.completedTotal =
        answeredArchive.server.sched.admission.completedUnderSlo + answeredArchive.server.sched.admission.completedOverSlo := by
  obtain ⟨hcount, -, -, -, hcompleted⟩ := exported_errors_exact (plainEnv .leastLoaded) answeredRun 0
  have hwindow : (Deque.lastN predHistoryCap answeredArchive.recorded).length = 1 := by decide +kernel
  exact ⟨hcount.trans hwindow, hcompleted⟩

end Dio.Manager
