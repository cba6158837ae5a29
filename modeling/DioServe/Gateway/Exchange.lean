/-
The exchange of one request with its engine. A request holds a slot before an engine is asked, reads a stream only
while it is open, and has done with the engine when it gives the slot back; it asks twice at most, and the second time
only after the one refusal that it has an answer to.
-/
import DioServe.Effect.Monitor
import DioServe.Gateway.Forwarding

namespace Dio.Gateway

open Data Py Effect Scheduler

variable {K : Type}

/-! ## The protocol -/

/-- Where a request is in its exchange. -/
inductive Stage
  | waiting
  /-- A slot is held, and no engine was asked. -/
  | holding (w : String)
  | built (w : String) (n : Attempt)
  /-- The whole reply is here. -/
  | answered (w : String) (n : Attempt) (status : Nat)
  /-- The head of the reply is here. -/
  | opened (w : String) (n : Attempt) (status : Nat)
  | drained (w : String) (n : Attempt) (status : Nat)
  | closed (w : String) (n : Attempt) (status : Nat)
  | reading (w : String)
  | finished (w : String)
  /-- A call upstream raised, or was cancelled. -/
  | broken (w : String)
  | settled (w : Option String)

namespace Stage

/-- The stage after a call upstream. -/
def after {α : Type} (w : String) (f : α → Stage) : Outcome α → Stage
  | .returned a => f a
  | _ => .broken w

/-- The reply may be read out and closed: before the request is made again, or before it is given up. -/
def mayClose (n : Attempt) (status : Nat) : Phase → Bool
  | .retry => n = .first ∧ status = 400
  | .refused => 400 ≤ status
  | .final => false

/-- The stage after a call that is in turn. -/
def next (s : Stage) : Event (sig K) → Option Stage
  | ⟨.perfCounter, _⟩ => some s
  | ⟨.time, _⟩ => some s
  | ⟨.pick _, r⟩ =>
    match s, r with
    | .waiting, .ok (w, _) => some (.holding w)
    | .waiting, .error _ => some (.settled none)
    | _, _ => none
  | ⟨.post n _, r⟩ =>
    match s with
    | .holding w => if n = .first then some (after w (fun resp => .answered w n resp.status) r) else none
    -- an engine without a chat route is asked for a completion
    | .answered w m status =>
      if m = .first ∧ status = 404 ∧ n = .again then some (after w (fun resp => .answered w n resp.status) r) else none
    | _ => none
  | ⟨.buildRequest n _, r⟩ =>
    match s with
    | .holding w => if n = .first then some (if Except.isOk r then .built w n else .broken w) else none
    -- an engine that knows no stream options is asked without them
    | .closed w m status =>
      if m = .first ∧ status = 400 ∧ n = .again then some (if Except.isOk r then .built w n else .broken w) else none
    | _ => none
  | ⟨.send n, r⟩ =>
    match s with
    | .built w m => if m = n then some (after w (fun status => .opened w n status) r) else none
    | _ => none
  | ⟨.aread phase, r⟩ =>
    match s with
    | .opened w n status => if mayClose n status phase then some (after w (fun _ => .drained w n status) r) else none
    | _ => none
  | ⟨.aclose phase, r⟩ =>
    match s with
    | .drained w n status => if mayClose n status phase then some (after w (fun _ => .closed w n status) r) else none
    | .reading w => if phase = .final then some (after w (fun _ => .finished w) r) else none
    | _ => none
  | ⟨.aiterBytes, _⟩ =>
    match s with
    | .opened w _ status => if status < 400 then some (.reading w) else none
    | _ => none
  | ⟨.iterEnd, _⟩ =>
    match s with
    | .reading w => some (.reading w)
    | _ => none
  | ⟨.yield _, _⟩ =>
    match s with
    | .reading w => some (.reading w)
    | .settled w => some (.settled w)
    | _ => none
  | ⟨.noteFailure v, _⟩ =>
    match s with
    | .answered w n status => if v = w then some (.answered w n status) else none
    | .reading w => if v = w then some (.reading w) else none
    | .settled w => if w = some v then some (.settled w) else none
    | _ => none
  | ⟨.feedback v _ _ success, _⟩ =>
    match s with
    | .answered w _ status => if v = w ∧ success = decide (status < 400) then some (.settled w) else none
    | .closed w _ status => if v = w ∧ 400 ≤ status ∧ success = false then some (.settled w) else none
    | .finished w => if v = w then some (.settled w) else none
    | _ => none
  | ⟨.release v, _⟩ =>
    match s with
    | .holding w | .answered w _ _ | .finished w | .broken w => if v = w then some (.settled w) else none
    | _ => none

end Stage

/-- The monitor of an exchange. -/
def exchanges : Monitor (sig K) Stage := ⟨Stage.next⟩

/-- A request is put to an engine. -/
def asks : Event (sig K) → Bool
  | ⟨.post _ _, _⟩ => true
  | ⟨.send _, _⟩ => true
  | _ => false

/-- How often an engine can still be asked. -/
def Stage.asksLeft : Stage → Nat
  | .waiting | .holding _ => 2
  | .built _ n => if n = .first then 2 else 1
  | .answered _ n _ | .opened _ n _ | .drained _ n _ | .closed _ n _ => if n = .first then 1 else 0
  | _ => 0

/-- The slot is given back. -/
def closes : Event (sig K) → Bool
  | ⟨.feedback .., _⟩ => true
  | ⟨.release _, _⟩ => true
  | _ => false

def Stage.closesLeft : Stage → Nat
  | .settled _ => 0
  | _ => 1

theorem asksLeft_after {α : Type} {w : String} {f : α → Stage} {n : Nat} (h : ∀ a, (f a).asksLeft ≤ n) (r : Outcome α) :
    (Stage.after w f r).asksLeft ≤ n := by
  cases r with
  | returned a => exact h a
  | raised text => exact Nat.zero_le n
  | cancelled => exact Nat.zero_le n

/-- What a call uses up: a question when it asks, the slot when it closes. -/
structure Stage.Uses (s : Stage) (ev : Event (sig K)) (s' : Stage) : Prop where
  asks : (if asks ev then 1 else 0) + s'.asksLeft ≤ s.asksLeft
  closes : (if closes ev then 1 else 0) + s'.closesLeft ≤ s.closesLeft

theorem Stage.closesLeft_le (s : Stage) : s.closesLeft ≤ 1 := by
  cases s <;> exact Nat.le_of_ble_eq_true rfl

/-- A call that leaves the slot taken. -/
theorem Stage.Uses.taken {s s' : Stage} {ev : Event (sig K)} (hopen : s.closesLeft = 1) (hcloses : Gateway.closes ev = false)
    (h : (if Gateway.asks ev then 1 else 0) + s'.asksLeft ≤ s.asksLeft) : s.Uses ev s' := by
  refine ⟨h, ?_⟩
  rw [hcloses, hopen]
  exact (Nat.zero_add _).le.trans s'.closesLeft_le

/-- A call after which the request is where it was. -/
theorem Stage.Uses.same {s : Stage} {ev : Event (sig K)} (hasks : Gateway.asks ev = false) (hcloses : Gateway.closes ev = false) :
    s.Uses ev s := by
  refine ⟨?_, ?_⟩
  · rw [hasks]
    exact (Nat.zero_add _).le
  · rw [hcloses]
    exact (Nat.zero_add _).le

/-- A call that gives the slot back. -/
theorem Stage.Uses.settles {s : Stage} {ev : Event (sig K)} {w : Option String} (hopen : s.closesLeft = 1)
    (hasks : Gateway.asks ev = false) : s.Uses ev (.settled w) := by
  refine ⟨?_, ?_⟩
  · rw [hasks]
    exact Nat.zero_le _
  · rw [hopen]
    split <;> exact Nat.le_of_ble_eq_true rfl

theorem uses_next {s s' : Stage} {ev : Event (sig K)} (h : s.next ev = some s') : s.Uses ev s' := by
  obtain ⟨c, r⟩ := ev
  cases c with
  | perfCounter | time =>
    cases h
    exact .same rfl rfl
  | pick a =>
    cases s with
    | waiting =>
      rcases r with e | ⟨w, d⟩ <;> cases h
      · exact .taken rfl rfl (Nat.zero_le _)
      · exact .taken rfl rfl le_rfl
    | _ => cases h
  | post n request =>
    cases s with
    | holding w =>
      obtain ⟨rfl, h⟩ := Option.ite_none_right_eq_some.1 h
      cases h
      exact .taken rfl rfl (Nat.add_le_add_left (asksLeft_after (n := 1) (fun _ => le_rfl) r) 1)
    | answered w m status =>
      obtain ⟨⟨rfl, -, rfl⟩, hs'⟩ := Option.ite_none_right_eq_some.1 h
      cases hs'
      exact .taken rfl rfl (Nat.add_le_add_left (asksLeft_after (n := 0) (fun _ => le_rfl) r) 1)
    | _ => cases h
  | buildRequest n request =>
    cases s with
    | holding w =>
      obtain ⟨rfl, h⟩ := Option.ite_none_right_eq_some.1 h
      cases h
      refine .taken rfl rfl ?_
      cases Except.isOk r <;> exact Nat.le_of_ble_eq_true rfl
    | closed w m status =>
      obtain ⟨⟨rfl, -, rfl⟩, hs'⟩ := Option.ite_none_right_eq_some.1 h
      cases hs'
      refine .taken rfl rfl ?_
      cases Except.isOk r <;> exact Nat.le_of_ble_eq_true rfl
    | _ => cases h
  | send n =>
    cases s with
    | built w m =>
      obtain ⟨rfl, h⟩ := Option.ite_none_right_eq_some.1 h
      cases h
      cases m with
      | first => exact .taken rfl rfl (Nat.add_le_add_left (asksLeft_after (n := 1) (fun _ => le_rfl) r) 1)
      | again => exact .taken rfl rfl (Nat.add_le_add_left (asksLeft_after (n := 0) (fun _ => le_rfl) r) 1)
    | _ => cases h
  | aread phase =>
    cases s with
    | opened w n status =>
      obtain ⟨-, h⟩ := Option.ite_none_right_eq_some.1 h
      cases h
      exact .taken rfl rfl ((Nat.zero_add _).le.trans (asksLeft_after (fun _ => le_rfl) r))
    | _ => cases h
  | aclose phase =>
    cases s with
    | drained w n status =>
      obtain ⟨-, h⟩ := Option.ite_none_right_eq_some.1 h
      cases h
      exact .taken rfl rfl ((Nat.zero_add _).le.trans (asksLeft_after (fun _ => le_rfl) r))
    | reading w =>
      obtain ⟨-, h⟩ := Option.ite_none_right_eq_some.1 h
      cases h
      exact .taken rfl rfl ((Nat.zero_add _).le.trans (asksLeft_after (fun _ => le_rfl) r))
    | _ => cases h
  | aiterBytes =>
    cases s with
    | opened w n status =>
      obtain ⟨-, h⟩ := Option.ite_none_right_eq_some.1 h
      cases h
      exact .taken rfl rfl (Nat.zero_le _)
    | _ => cases h
  | iterEnd =>
    cases s with
    | reading w =>
      cases h
      exact .same rfl rfl
    | _ => cases h
  | yield frame =>
    cases s with
    | reading w | settled w =>
      cases h
      exact .same rfl rfl
    | _ => cases h
  | noteFailure v =>
    cases s with
    | answered w n status | reading w | settled w =>
      obtain ⟨-, h⟩ := Option.ite_none_right_eq_some.1 h
      cases h
      exact .same rfl rfl
    | _ => cases h
  | feedback v e2eMs tokens success =>
    cases s with
    | answered w n status | closed w n status | finished w =>
      obtain ⟨-, h⟩ := Option.ite_none_right_eq_some.1 h
      cases h
      exact .settles rfl rfl
    | _ => cases h
  | release v =>
    cases s with
    | holding w | answered w n status | finished w | broken w =>
      obtain ⟨-, h⟩ := Option.ite_none_right_eq_some.1 h
      cases h
      exact .settles rfl rfl
    | _ => cases h

/-! ## Calls in turn -/

section InTurn

/-- Every call of the program is in turn from `s` on. -/
def Orderly {α : Type} (s : Stage) (p : Co K α) : Prop := exchanges.InTurn s p (fun _ _ => True) fun _ _ => True

/-- The slot can be given back by `release`. -/
def Stage.Releasable (w : String) (s : Stage) : Prop :=
  s = .holding w ∨ (∃ n status, s = .answered w n status) ∨ s = .broken w

/-- The calls that read the clock. -/
def Call.timed : Call K → Bool
  | .perfCounter | .time => true
  | _ => false

/-- A program that reads the clock at most. -/
def Timed {α : Type} (p : Co K α) : Prop := Prog.Only (fun ev => Call.timed ev.op = true) p

theorem Timed.inTurn {α : Type} {p : Co K α} (h : Timed p) {s : Stage} {Q : α → Stage → Prop} {E : Exn → Stage → Prop}
    (hQ : ∀ a, Q a s) (hE : ∀ e, E e s) : exchanges.InTurn s p Q E := by
  refine Monitor.InTurn.of_only (h.mono fun ev hev => ?_) hQ hE
  obtain ⟨c, r⟩ := ev
  cases c <;> first | rfl | cases hev

theorem Timed.orderly {α : Type} {p : Co K α} (h : Timed p) (s : Stage) : Orderly s p :=
  h.inTurn (fun _ => trivial) fun _ => trivial

theorem timed_py {α : Type} {y : Except PyErr α} : Timed (py y : Co K α) := Prog.Only.ofExcept _

theorem timed_jsonResponse {r : JsonResponse K} : Timed (jsonResponse r) := by
  unfold jsonResponse
  split
  · exact Prog.Only.ret _
  · exact timed_py

/-- Frames are sent while the stream is read, and after the slot was given back. -/
theorem only_yieldAll {s : Stage} (hs : ∀ (frame : Frame) (r : Resume), s.next (⟨.yield frame, r⟩ : Event (sig K)) = some s)
    (frames : List Frame) : Prog.Only (fun ev => exchanges.next s ev = some s) (yieldAll frames : Co K Unit) :=
  Prog.Only.forEach (fun frame => Prog.Only.ask fun r => hs frame r) frames

theorem only_noteServerError {s : Stage} {w : String}
    (hs : ∀ r, s.next (⟨.noteFailure w, r⟩ : Event (sig K)) = some s) (status : Nat) :
    Prog.Only (fun ev => exchanges.next s ev = some s) (noteServerError w status : Co K Unit) := by
  unfold noteServerError
  split
  · exact Prog.Only.bind (Prog.Only.call hs) fun _ => Prog.Only.ret _
  · exact Prog.Only.ret _

/-- A call upstream that is in turn. -/
theorem inTurn_upstream {α : Type} {s : Stage} {w : String} {E : Exn → Stage → Prop} (c : Call K) (f : c.Res → Outcome α)
    (g : α → Stage) (h : ∀ r, s.next (⟨c, r⟩ : Event (sig K)) = some (.after w g (f r))) (hE : ∀ e, E e (.broken w)) :
    exchanges.InTurn s (Prog.ask (S := sig K) c fun r => (f r).toExcept) (fun a s' => s' = g a) E := by
  refine .ask fun r => ⟨_, h r, ?_⟩
  show Monitor.Ends _ E (f r).toExcept (.after w g (f r))
  cases f r with
  | returned a => exact rfl
  | raised text => exact hE _
  | cancelled => exact hE _

theorem next_release {w : String} {s : Stage} (h : s.Releasable w) :
    s.next (⟨.release w, ()⟩ : Event (sig K)) = some (.settled w) := by
  rcases h with rfl | ⟨n, status, rfl⟩ | rfl <;> exact if_pos rfl

/-- A guarded call: the slot is given back when it raises an `Exception`. -/
theorem inTurn_orRelease {α : Type} {s : Stage} {w : String} {p : Co K α} {Q : α → Stage → Prop}
    (h : exchanges.InTurn s p Q fun _ s' => s'.Releasable w) : exchanges.InTurn s (orRelease w p) Q fun _ _ => True := by
  refine Monitor.InTurn.bind h.attempt fun y s' hy => ?_
  cases y with
  | ok a => exact .ret hy
  | error e =>
    cases e with
    | exception f =>
      exact Monitor.InTurn.bind (Q := fun _ _ => True) (.call fun _ => ⟨.settled w, next_release (K := K) hy, trivial⟩)
        fun _ _ _ => .raise trivial
    | badGateway _ _ => exact .raise trivial
    | cancelled => exact .raise trivial
    | generatorExit => exact .raise trivial

theorem timed_elapsedMs [Field K] {t0 : K} : Timed (elapsedMs t0 : Co K K) :=
  Prog.Only.bind (Prog.Only.call fun _ => rfl) fun _ => Prog.Only.ret _

/-! ## JSON -/

/-- The stage after a pick. -/
def Stage.picked : Except AdmissionError (String × RoutingDecision K) → Stage
  | .ok (w, _) => .holding w
  | .error _ => .settled none

theorem orderly_admission {α : Type} {G : DioGateway K} {body : Obj} {tier : String} {allowed : Option (List String)}
    {reject : AdmissionError → Co K α} {accept : String → Int → String → RoutingDecision K → Co K α}
    (hreject : ∀ e, Orderly (.settled none) (reject e))
    (haccept : ∀ prompt tokens w d, Orderly (.holding w) (accept prompt tokens w d)) :
    Orderly .waiting (admission G body tier allowed reject accept) := by
  have hpy : ∀ {β : Type} (y : Except PyErr β),
      exchanges.InTurn .waiting (py y : Co K β) (fun _ s' => s' = .waiting) fun _ _ => True :=
    fun _ => timed_py.inTurn (fun _ => rfl) fun _ => trivial
  refine Monitor.InTurn.bind (hpy _) fun prompt _ hs => ?_
  subst hs
  refine Monitor.InTurn.bind (hpy _) fun tokens _ hs => ?_
  subst hs
  refine Monitor.InTurn.bind (Q := fun r s' => s' = .picked r) (.call fun r => ?_) fun r s' hs => ?_
  · rcases r with e | ⟨w, d⟩ <;> exact ⟨_, rfl, rfl⟩
  · rcases r with e | ⟨w, d⟩
    · subst hs
      exact hreject e
    · subst hs
      exact haccept prompt tokens w d

/-- The engine was asked, and answered `n` times. -/
def Answered (w : String) (n : Attempt) (resp : UpstreamResponse) (s : Stage) : Prop := s = .answered w n resp.status

theorem inTurn_forwardTo {G : DioGateway K} {n : Attempt} {w : String} {path : Path} {body : Obj} {s : Stage}
    (hopen : s.Releasable w) (hs : ∀ request (r : Outcome UpstreamResponse),
      s.next (⟨.post n request, r⟩ : Event (sig K)) = some (.after w (fun resp => .answered w n resp.status) r)) :
    exchanges.InTurn s (forwardTo G n w path body) (Answered w n) fun _ s' => s'.Releasable w := by
  have hpy : ∀ {β : Type} (y : Except PyErr β),
      exchanges.InTurn s (py y : Co K β) (fun _ s' => s' = s) fun _ s' => s'.Releasable w :=
    fun _ => timed_py.inTurn (fun _ => rfl) fun _ => hopen
  refine Monitor.InTurn.bind (hpy _) fun b _ hb => ?_
  subst hb
  refine Monitor.InTurn.bind (hpy _) fun request _ hr => ?_
  subst hr
  exact inTurn_upstream (.post n request) (fun r => r) (fun resp => .answered w n resp.status) (hs request)
    fun _ => .inr (.inr rfl)

theorem inTurn_exchange {G : DioGateway K} {w : String} {body : Obj} {path : Path} {prompt : String} :
    exchanges.InTurn (.holding w) (exchange G w body path prompt) (fun resp s' => ∃ n, Answered w n resp s')
      fun _ s' => s'.Releasable w := by
  refine Monitor.InTurn.bind (inTurn_forwardTo (.inl rfl) fun _ _ => rfl) fun resp s' hs => ?_
  subst hs
  split
  · rename_i hretry
    refine (inTurn_forwardTo (.inr (.inl ⟨_, _, rfl⟩)) fun _ r => ?_).mono (fun _ _ h => ⟨_, h⟩) fun _ _ h => h
    exact if_pos ⟨rfl, hretry.1, rfl⟩
  · exact .ret ⟨.first, rfl⟩

variable [Field K] [LinearOrder K] [FloorRing K]

theorem timed_readReply {G : DioGateway K} {b : Backend} {body : Obj} {path : Path} {prompt : String}
    {resp : UpstreamResponse} : Timed (readReply G b body path prompt resp) := by
  have hnormalized : ∀ (status : Nat) (data : Json), Timed (normalized G b body path prompt status data) := by
    intro status data
    unfold normalized
    split
    · unfold normalizeTgi
      exact Prog.Only.bind timed_py fun _ => Prog.Only.bind timed_py fun _ => Prog.Only.bind (Prog.Only.call fun _ => rfl)
        fun _ => Prog.Only.bind (Prog.Only.call fun _ => rfl) fun _ => Prog.Only.ret _
    · exact Prog.Only.ret _
  have hparse : Timed (parseReply G b body path prompt resp) :=
    Prog.Only.bind timed_py fun _ => Prog.Only.bind (hnormalized _ _) fun _ =>
      Prog.Only.bind timed_py fun _ => Prog.Only.ret _
  refine Prog.Only.bind (Prog.Only.attempt hparse) fun r => ?_
  cases r <;> exact Prog.Only.ret _

theorem orderly_settle {G : DioGateway K} {w : String} {d : RoutingDecision K} {t0 : K} {tokens : Int} {body : Obj}
    {path : Path} {prompt : String} {resp : UpstreamResponse} {n : Attempt} :
    Orderly (.answered w n resp.status) (settle G w d t0 tokens body path prompt resp) := by
  have htimed : ∀ {β : Type} {p : Co K β}, Timed p →
      exchanges.InTurn (.answered w n resp.status) p (fun _ s' => s' = .answered w n resp.status) fun _ _ => True :=
    fun h => h.inTurn (fun _ => rfl) fun _ => trivial
  refine Monitor.InTurn.bind (htimed timed_elapsedMs) fun e2eMs _ hs => ?_
  subst hs
  refine Monitor.InTurn.bind (htimed timed_py) fun b _ hs => ?_
  subst hs
  refine Monitor.InTurn.bind (htimed timed_readReply) fun r _ hs => ?_
  subst hs
  refine Monitor.InTurn.bind (Q := fun _ s' => s' = .answered w n resp.status)
    (.of_only (only_noteServerError (s := .answered w n resp.status) (fun _ => if_pos rfl) _) (fun _ => rfl) fun _ => trivial) fun _ _ hs => ?_
  subst hs
  refine Monitor.InTurn.bind (Q := fun _ _ => True) (.call fun _ => ⟨.settled w, if_pos ⟨rfl, rfl⟩, trivial⟩) fun _ s' _ => ?_
  exact timed_jsonResponse.orderly s'

theorem orderly_proxyJson {G : DioGateway K} {body : Obj} {path : Path} {tier : String} {allowed : Option (List String)} :
    Orderly .waiting (proxyJson G body path tier allowed) := by
  refine orderly_admission (fun _ => timed_jsonResponse.orderly _) fun prompt tokens w d => ?_
  refine Monitor.InTurn.bind (Q := fun _ s' => s' = .holding w) (.call fun _ => ⟨_, rfl, rfl⟩) fun t0 _ hs => ?_
  subst hs
  refine Monitor.InTurn.bind (inTurn_orRelease inTurn_exchange) fun resp _ hs => ?_
  obtain ⟨n, rfl⟩ := hs
  exact orderly_settle

end InTurn

/-! ## Streams -/

section Streams

/-- A stream that is read and then finished, frame by frame. -/
structure Streams {α : Type} (w : String) (read : Co K α) (finish : α → Co K Unit) : Prop where
  read : ∀ n status, status < 400 → exchanges.InTurn (.opened w n status) read (fun _ s' => s' = .reading w)
    fun _ s' => s' = .reading w
  finish : ∀ a, exchanges.InTurn (.reading w) (finish a) (fun _ s' => s' = .reading w) fun _ s' => s' = .reading w

theorem inTurn_tryStream {α : Type} {w : String} {read : Co K α} {finish : α → Co K Unit} (h : Streams w read finish)
    {n : Attempt} {status : Nat} (hstatus : status < 400) :
    exchanges.InTurn (.opened w n status) (tryStream read finish) (fun _ s' => s' = .reading w) fun _ _ => True := by
  refine Monitor.InTurn.bind (h.read n status hstatus).attempt fun y s' hs => ?_
  cases y with
  | error e => exact .ret hs
  | ok a =>
    have hs' : s' = .reading w := hs
    subst hs'
    refine Monitor.InTurn.bind (h.finish a).attempt fun z s'' hs => ?_
    cases z <;> exact .ret hs

theorem only_onException {w : String} {report : String → List Frame} {outcome : Except Exn Unit} :
    Prog.Only (fun ev => exchanges.next (.reading w) ev = some (.reading w)) (onException w report outcome : Co K Unit) := by
  unfold onException
  split
  · exact Prog.Only.ret _
  · exact Prog.Only.bind (Prog.Only.call fun _ => if_pos rfl) fun _ => only_yieldAll (fun _ _ => rfl) _
  · exact Prog.Only.raise _

theorem inTurn_send {w : String} {n : Attempt} : exchanges.InTurn (.built w n) (send n : Co K Nat)
    (fun status s' => s' = .opened w n status) fun _ s' => s'.Releasable w :=
  inTurn_upstream (.send n) (fun r => r) (fun status => .opened w n status) (fun _ => if_pos rfl) fun _ => .inr (.inr rfl)

theorem streams_relay {w : String} : Streams w (relayChunks : Co K Unit) fun _ => Prog.ret () where
  read n status hstatus := by
    refine Monitor.InTurn.bind (Q := fun _ s' => s' = .reading w) (.call fun _ => ⟨_, if_pos hstatus, rfl⟩)
      fun chunks _ hs => ?_
    subst hs
    refine .of_only ?_ (fun _ => rfl) fun _ => rfl
    exact Prog.Only.bind (only_yieldAll (fun _ _ => rfl) _) fun _ => Prog.Only.ask fun _ => rfl
  finish _ := .ret rfl

/-- A stream that is not relayed: its frames come when the slot is free. -/
theorem orderly_reply {w : Option String} {status : Nat} {mediaType : String} {headers : Dict String String} {gen : Co K Unit}
    (h : Prog.Only (fun ev => exchanges.next (.settled w) ev = some (.settled w)) gen) :
    Orderly (.settled w) (serve (streamingResponse status mediaType headers gen)) := by
  rw [serve_streamingResponse]
  split
  · exact .of_only h (fun _ => trivial) fun _ => trivial
  · exact timed_py.orderly _

/-- An engine that rejects the stream options is asked again. -/
theorem inTurn_openOllama {G : DioGateway K} {w : String} {b : Backend} {path : Path} {payload : Obj} :
    exchanges.InTurn (.built w .first) (openOllama G b path payload) (fun status s' => ∃ n, s' = .opened w n status)
      fun _ s' => s'.Releasable w := by
  refine Monitor.InTurn.bind inTurn_send fun status _ hs => ?_
  subst hs
  split
  · rename_i hretry
    have hclose : Stage.mayClose .first status .retry = true := decide_eq_true ⟨rfl, hretry.1⟩
    refine Monitor.InTurn.bind (inTurn_upstream (.aread .retry) (fun r => r) (fun _ => .drained w .first status)
      (fun _ => if_pos hclose) fun _ => .inr (.inr rfl)) fun _ _ hs => ?_
    subst hs
    refine Monitor.InTurn.bind (inTurn_upstream (.aclose .retry) (fun r => r) (fun _ => .closed w .first status)
      (fun _ => if_pos hclose) fun _ => .inr (.inr rfl)) fun _ _ hs => ?_
    subst hs
    refine Monitor.InTurn.bind (Q := fun _ s' => s' = .built w .again)
      (.ask fun r => ⟨_, if_pos ⟨rfl, hretry.1, rfl⟩, ?_⟩) fun _ _ hs => ?_
    · cases r with
      | ok a => exact rfl
      | error text => exact .inr (.inr rfl)
    subst hs
    exact inTurn_send.mono (fun _ _ h => ⟨_, h⟩) fun _ _ h => h
  · exact .ret ⟨.first, rfl⟩

theorem only_translateChunks {G : DioGateway K} {w : String} {p : TranslParams} : ∀ {chunks : List (List UInt8)}
    {st : Text.Lines.Feed Transl},
      Prog.Only (fun ev => exchanges.next (.reading w) ev = some (.reading w)) (translateChunks G p st chunks)
  | [], _ => Prog.Only.bind (Prog.Only.ask fun _ => rfl) fun _ => Prog.Only.ret _
  | _ :: _, _ => by
    unfold translateChunks
    refine Prog.Only.bind (only_yieldAll (fun _ _ => rfl) _) fun _ => ?_
    split
    · exact Prog.Only.ret _
    · exact only_translateChunks

variable [Field K]

theorem orderly_closeOut {w : String} {t0 : K} {tokens : Int} {clientGone streamOk : Bool} :
    Orderly (.reading w) (closeOut w t0 tokens clientGone streamOk) := by
  refine Monitor.InTurn.bind (Q := fun _ s' => s' = .reading w)
    (timed_elapsedMs.inTurn (fun _ => rfl) fun _ => trivial) fun e2eMs _ hs => ?_
  subst hs
  refine Monitor.InTurn.bind (inTurn_upstream (w := w) (.aclose .final) (fun r => r) (fun _ => .finished w)
    (fun _ => rfl) fun _ => trivial) fun _ _ hs => ?_
  subst hs
  cases clientGone
  · exact .call fun _ => ⟨.settled w, if_pos rfl, trivial⟩
  · exact .call fun _ => ⟨.settled w, if_pos rfl, trivial⟩

theorem orderly_relayed {α : Type} {w : String} {t0 : K} {tokens : Int} {read : Co K α} {finish : α → Co K Unit}
    {report : String → List Frame} (h : Streams w read finish) {n : Attempt} {status : Nat} (hstatus : status < 400) :
    Orderly (.opened w n status) (relayed w t0 tokens read finish report) := by
  refine Monitor.InTurn.bind (inTurn_tryStream h hstatus) fun r _ hs => ?_
  subst hs
  refine Monitor.InTurn.bind (Q := fun _ s' => s' = .reading w)
    (.of_only (Prog.Only.attempt only_onException) (fun _ => rfl) fun _ => trivial) fun outcome _ hs => ?_
  subst hs
  exact Monitor.InTurn.bind orderly_closeOut fun _ _ _ => .ofExcept (by cases outcome <;> exact trivial)

/-- An error reply is read out, closed and booked, and then told to the client. -/
theorem orderly_refused {w : String} {t0 : K} {tokens : Int} {n : Attempt} {status : Nat} (hstatus : 400 ≤ status)
    {refuse : List UInt8 → Co K Unit} (hrefuse : ∀ raw, Orderly (.settled w) (refuse raw)) :
    Orderly (.opened w n status) (refused w t0 tokens status >>= refuse) := by
  have hclose : Stage.mayClose n status .refused = true := decide_eq_true hstatus
  have hrefused : exchanges.InTurn (.opened w n status) (refused w t0 tokens status) (fun _ s' => s' = .settled w)
      fun _ _ => True := by
    refine Monitor.InTurn.bind (inTurn_upstream (.aread .refused) (fun r => r) (fun _ => .drained w n status)
      (fun _ => if_pos hclose) fun _ => trivial) fun raw _ hs => ?_
    subst hs
    refine Monitor.InTurn.bind (inTurn_upstream (.aclose .refused) (fun r => r) (fun _ => .closed w n status)
      (fun _ => if_pos hclose) fun _ => trivial) fun _ _ hs => ?_
    subst hs
    refine Monitor.InTurn.bind (Q := fun _ s' => s' = .closed w n status)
      (timed_elapsedMs.inTurn (fun _ => rfl) fun _ => trivial) fun e2eMs _ hs => ?_
    subst hs
    refine Monitor.InTurn.bind (Q := fun _ s' => s' = .settled w)
      (.call fun _ => ⟨_, if_pos ⟨rfl, hstatus, rfl⟩, rfl⟩) fun _ _ hs => ?_
    subst hs
    refine Monitor.InTurn.bind (Q := fun _ s' => s' = .settled w)
      (.of_only (only_noteServerError (s := .settled w) (fun _ => if_pos rfl) _) (fun _ => rfl) fun _ => trivial)
      fun _ _ hs => ?_
    exact .ret hs
  refine Monitor.InTurn.bind hrefused fun raw _ hs => ?_
  subst hs
  exact hrefuse raw

/-- A stream is opened, by an engine asked once or twice. -/
theorem orderly_openedStream {G : DioGateway K} {w : String} {tokens : Int} {request : Backend → HttpRequest}
    {opening : Backend → Co K Nat} {refuse : List UInt8 → Nat → Co K (Reply K)} {mediaType : String}
    {headers : Dict String String} {gen : K → Co K Unit}
    (hopening : ∀ b, exchanges.InTurn (.built w .first) (opening b) (fun status s' => ∃ n, s' = .opened w n status)
      fun _ s' => s'.Releasable w)
    (hrefuse : ∀ raw status, Orderly (.settled w) (serve (refuse raw status)))
    (hgen : ∀ t0 n status, status < 400 → Orderly (.opened w n status) (gen t0)) :
    Orderly (.holding w) (serve (openedStream G w tokens request opening refuse
      fun t0 => streamingResponse 200 mediaType headers (gen t0))) := by
  unfold openedStream
  simp only [serve_bind]
  refine Monitor.InTurn.bind (Q := fun _ s' => s' = .holding w) (timed_py.inTurn (fun _ => rfl) fun _ => trivial)
    fun b _ hs => ?_
  subst hs
  refine Monitor.InTurn.bind (Q := fun _ s' => s' = .holding w) (.call fun _ => ⟨_, rfl, rfl⟩) fun t0 _ hs => ?_
  subst hs
  refine Monitor.InTurn.bind (Q := fun _ s' => s' = .built w .first) (.ask fun r => ⟨_, rfl, ?_⟩) fun _ _ hs => ?_
  · cases r with
    | ok a => exact rfl
    | error text => exact trivial
  subst hs
  refine Monitor.InTurn.bind (inTurn_orRelease (hopening b)) fun status _ hs => ?_
  obtain ⟨n, rfl⟩ := hs
  split
  · rename_i hstatus
    rw [serve_bind]
    exact orderly_refused hstatus fun raw => hrefuse raw status
  · rename_i hstatus
    rw [serve_streamingResponse]
    split
    · exact hgen t0 n status (by omega)
    · exact timed_py.orderly _

variable [LinearOrder K] [FloorRing K]

omit [Field K] [LinearOrder K] [FloorRing K] in
theorem streams_ollama {G : DioGateway K} {w : String} {p : TranslParams} :
    Streams w (readOllama G p) (finishOllama p : _ → Co K Unit) where
  read n status hstatus := by
    refine Monitor.InTurn.bind (Q := fun _ s' => s' = .reading w) (.call fun _ => ⟨_, if_pos hstatus, rfl⟩)
      fun chunks _ hs => ?_
    subst hs
    exact .of_only only_translateChunks (fun _ => rfl) fun _ => rfl
  finish st := .of_only (Prog.Only.bind (Prog.Only.call fun _ => rfl) fun _ => Prog.Only.ask fun _ => rfl) (fun _ => rfl)
    fun _ => rfl

theorem orderly_stream {G : DioGateway K} {s : StreamHandler} {body : Obj} {path : Path} {tier : String}
    {allowed : Option (List String)} : Orderly .waiting (serve (s.proxy G body path tier allowed)) := by
  cases s with
  | relay mediaType =>
    rw [StreamHandler.proxy, relayStream, serve_admission]
    refine orderly_admission (fun e => orderly_reply (only_yieldAll (fun _ _ => rfl) _)) fun prompt tokens w d => ?_
    refine orderly_openedStream (fun _ => inTurn_send.mono (fun _ _ h => ⟨_, h⟩) fun _ _ h => h) (fun raw status => ?_)
      fun t0 n status hstatus => orderly_relayed streams_relay hstatus
    unfold relayRefusal
    rw [serve_bind]
    exact Timed.orderly (Prog.Only.bind timed_jsonResponse fun _ => Prog.Only.ret _) _
  | ollama isChat =>
    rw [StreamHandler.proxy, proxyOllamaStream, serve_admission]
    refine orderly_admission (fun e => orderly_reply (Prog.Only.ask fun _ => rfl)) fun prompt tokens w d => ?_
    exact orderly_openedStream (fun _ => inTurn_openOllama) (fun raw status => orderly_reply (Prog.Only.ask fun _ => rfl))
      fun t0 n status hstatus => orderly_relayed streams_ollama hstatus

/-- Whatever the engine, the client and the scheduler do, a request on any of the endpoints keeps to the protocol of
an exchange: it asks an engine only while it holds a slot, twice at most, and gives the slot back at most once, when it
has done with the engine. -/
theorem exchange_in_turn (G : DioGateway K) (e : Endpoint) (body : Obj) {t : List (Event (sig K))} {x : Except Exn Unit}
    (h : (serve (e.handle G body)).Exec t x) :
    (∃ s, exchanges.run .waiting t = some s) ∧ t.countP asks ≤ 2 ∧ t.countP closes ≤ 1 := by
  have hturn : ∃ s, exchanges.run .waiting t = some s := by
    rcases exec_endpoint h with rfl | ⟨body', allowed, -, ⟨x', h'⟩ | h'⟩
    · exact ⟨.waiting, rfl⟩
    · obtain ⟨s, hrun, -⟩ := orderly_proxyJson _ _ h'
      exact ⟨s, hrun⟩
    · obtain ⟨s, hrun, -⟩ := orderly_stream _ _ h'
      exact ⟨s, hrun⟩
  obtain ⟨s, hrun⟩ := hturn
  have hasks := Monitor.countP_le_rank (fun s ev s' hnext => (uses_next hnext).asks) hrun
  have hcloses := Monitor.countP_le_rank (fun s ev s' hnext => (uses_next hnext).closes) hrun
  exact ⟨⟨s, hrun⟩, (Nat.le_add_right _ _).trans hasks, (Nat.le_add_right _ _).trans hcloses⟩

end Streams

/-! ## Examples -/

/-- The calls of a request to an engine that knows no stream options. -/
def askedAgain : List (Event (sig ℚ)) :=
  (Prog.run (Answers.env { send := fun n => .returned (if n = .first then 400 else 200) })
    (serve (Endpoint.ollamaGenerate.handle oneBackend hello))).1

theorem exchange_in_turn_again : askedAgain.countP asks = 2 ∧
    (∃ s, exchanges.run .waiting askedAgain = some s) ∧ askedAgain.countP asks ≤ 2 ∧ askedAgain.countP closes ≤ 1 :=
  ⟨by decide +kernel, exchange_in_turn oneBackend .ollamaGenerate hello (Prog.exec_run _ _)⟩

end Dio.Gateway
