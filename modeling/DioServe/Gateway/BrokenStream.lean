/-
A stream that breaks upstream (`_proxy_ollama_stream`). An event with an error and no choices is what
the relay of another gateway sends when its engine dies; the loop skips it like every event without
choices, so the client gets an error line, and the scheduler a failure, only when reading the upstream
stream raises as well.
-/
import DioServe.Gateway.ReplyParity

namespace Dio.Gateway

open Data Py Effect Scheduler Text.Lines Text.Utf8

variable {K : Type}

/-! ## Errors in a stream -/

/-- A line of newline-delimited JSON that reports an error. -/
def carriesError : Json → Bool
  | .obj kvs => Dict.contains kvs "error"
  | _ => false

/-- The data of a line of an event stream. -/
def dataOf (U : Unicode) (line : List Char) : Option (List Char) :=
  if "data:".toList.isPrefixOf (stripChars U line) then some (stripChars U ((stripChars U line).drop 5)) else none

theorem dataOf_eq_some {U : Unicode} {line data : List Char} : dataOf U line = some data ↔
    "data:".toList.isPrefixOf (stripChars U line) = true ∧ stripChars U ((stripChars U line).drop 5) = data := by
  simp only [dataOf, Option.ite_none_right_eq_some, Option.some.injEq]

/-- An event with an error and no choices. -/
def ErrorData (data : List Char) : Prop :=
  ∃ kvs, loads (String.ofList data) = .ok (.obj kvs) ∧ Dict.contains kvs "error" = true ∧ Dict.get? kvs "choices" = none

/-- The stream has a complete line with such an event before any `[DONE]`. -/
def HasErrorEvent (U : Unicode) (chunks : List (List UInt8)) : Prop :=
  ∃ before line after data, (lines (decodeChunks chunks)).1 = before ++ line :: after ∧
    (∀ l ∈ before, dataOf U l ≠ some "[DONE]".toList) ∧ dataOf U line = some data ∧ ErrorData data

/-- The client is told of an error, and the scheduler of a failure. -/
def BreakReported (w : String) (t : List (Event (sig K))) : Prop :=
  (∃ frame ∈ yielded t, carriesError frame = true) ∧ ∃ e2eMs tokens, ⟨.feedback w e2eMs tokens false, ()⟩ ∈ t

/-- Reading the upstream stream raised, and the stream could be closed. -/
def BreakRaised (t : List (Event (sig K))) : Prop :=
  (∃ text, ⟨.iterEnd, Outcome.raised text⟩ ∈ t) ∧ ⟨.aclose .final, Outcome.returned ()⟩ ∈ t

/-! ## Frames without an error -/

/-- No frame of a translation carries an error. -/
theorem framesHave_noError (p : TranslParams) : FramesHave (fun frame => carriesError frame = false) p := by
  refine ⟨fun text => ?_, fun _ => rfl⟩
  unfold contentFrame
  split <;> rfl

theorem carriesError_finalFrame (p : TranslParams) (st : Transl) : carriesError (finalFrame p st) = false := by
  unfold finalFrame
  cases p.isChat <;> rfl

/-- An event that yields no frame with an error. -/
def Untroubled (ev : Event (sig K)) : Prop := ∀ frame ∈ yielded [ev], carriesError frame = false

theorem untroubled_yield {frame : Json} (h : carriesError frame = false) :
    Prog.Only Untroubled (yield (.ndjson frame) : Co K Unit) :=
  Prog.Only.ask fun _ _ hf => List.mem_singleton.1 hf ▸ h

theorem untroubled_yieldAll : ∀ {fs : List Json}, (∀ frame ∈ fs, carriesError frame = false) →
    Prog.Only Untroubled (yieldAll (fs.map .ndjson) : Co K Unit)
  | [], _ => Prog.Only.ret _
  | frame :: _, h =>
    Prog.Only.bind (untroubled_yield (h frame (List.mem_cons_self ..))) fun _ =>
      untroubled_yieldAll fun f hf => h f (List.mem_cons_of_mem _ hf)

theorem untroubled_translateChunks {G : DioGateway K} {p : TranslParams} : ∀ (chunks : List (List UInt8)) {st : Feed Transl},
    (∀ frame ∈ st.state.out, carriesError frame = false) → Prog.Only Untroubled (translateChunks G p st chunks)
  | [], _, _ => Prog.Only.bind (Prog.Only.ask fun _ _ hf => nomatch hf) fun _ => Prog.Only.ret _
  | chunk :: chunks, st, hst => by
    have hnext : ∀ frame ∈ (onChunk G.U p st chunk).state.out, carriesError frame = false := by
      refine feed_keeps (P := fun s => ∀ frame ∈ s.out, carriesError frame = false) (onLine_keeps G.U p ?_) (decode chunk) hst
      intro event s hs frame hframe
      obtain ⟨new, hnew, hQ⟩ := adds_onEvent G.U (framesHave_noError p) event s
      rw [hnew] at hframe
      exact (List.mem_append.1 hframe).elim (hs frame) (hQ frame)
    unfold translateChunks
    refine Prog.Only.bind (untroubled_yieldAll fun frame hf => hnext frame (List.mem_of_mem_drop hf)) fun _ => ?_
    split
    · exact Prog.Only.ret _
    · exact untroubled_translateChunks chunks hnext

theorem untroubled_finishOllama {p : TranslParams} {st : Feed Transl} : Prog.Only Untroubled (finishOllama p st : Co K Unit) :=
  Prog.Only.bind (Prog.Only.call fun _ _ hf => nomatch hf) fun _ => untroubled_yield (carriesError_finalFrame p st.state)

theorem Untroubled.yielded {t : List (Event (sig K))} (h : ∀ ev ∈ t, Untroubled ev) {frame : Json}
    (hf : frame ∈ Gateway.yielded t) : carriesError frame = false := by
  obtain ⟨ev, hev, hop⟩ := List.mem_filterMap.1 hf
  exact h ev hev frame (List.mem_filterMap.2 ⟨ev, List.mem_singleton_self _, hop⟩)

/-! ## How a generator ends -/

/-- The handlers report an `Exception` in one line, and nothing else. -/
theorem exec_report {w : String} {outcome : Except Exn Unit} {t : List (Event (sig K))} {y : Except Exn Unit}
    (h : (onException w ndjsonReport outcome).Exec t y) :
    (∃ f b r, outcome = .error (.exception f) ∧
      t = [⟨.noteFailure w, b⟩, ⟨.yield (.ndjson (errorFrame f.text)), r⟩]) ∨
    (t = [] ∧ ∀ f, outcome ≠ .error (.exception f)) := by
  cases outcome with
  | ok a => exact .inr ⟨h.1, nofun⟩
  | error e =>
    cases e with
    | exception f =>
      obtain ⟨b, t', rfl, h'⟩ := (Prog.exec_call_bind (S := sig K) _ _ _ _).1 h
      refine .inl ⟨f, b, ?_⟩
      rcases (Prog.exec_bind _ _ _ _).1 h' with ⟨_, t₁, t₂, h1, h2, rfl⟩ | ⟨e, h1, -⟩
      · obtain ⟨r, rfl, -⟩ := (exec_yield _ _ _).1 h1
        obtain ⟨rfl, -⟩ := h2
        exact ⟨r, rfl, rfl⟩
      · obtain ⟨r, rfl, -⟩ := (exec_yield _ _ _).1 h1
        exact ⟨r, rfl, rfl⟩
    | badGateway _ _ => exact .inr ⟨h.1, nofun⟩
    | cancelled => exact .inr ⟨h.1, nofun⟩
    | generatorExit => exact .inr ⟨h.1, nofun⟩

/-- An `Exception` comes out of reading the upstream stream only. -/
theorem raises_exception {f : Fault} {ev : Event (sig K)} (h : raises (.exception f) ev) :
    ∃ text, ev = ⟨.iterEnd, Outcome.raised text⟩ := by
  obtain ⟨c, r⟩ := ev
  cases c with
  | iterEnd =>
    have hr : Outcome.toExcept r = .error (.exception f) := h
    cases r with
    | returned _ => cases hr
    | raised text => exact ⟨text, rfl⟩
    | cancelled => cases hr
  | yield frame =>
    have hr : Resume.toExcept r = .error (.exception f) := h
    cases r <;> cases hr
  | _ => exact absurd h id

/-- The closing frame raises no `Exception`. -/
theorem finishOllama_exception {p : TranslParams} {st : Feed Transl} {t : List (Event (sig K))} {f : Fault}
    (h : (finishOllama p st : Co K Unit).Exec t (.error (.exception f))) : False := by
  obtain ⟨now, t', rfl, h'⟩ := (Prog.exec_call_bind (S := sig K) _ _ _ _).1 h
  obtain ⟨r, -, hr⟩ := (exec_yield _ _ _).1 h'
  cases r <;> cases hr

/-- Reading the upstream stream raises here. -/
def raisesRead : Event (sig K) → Bool
  | ⟨.iterEnd, r⟩ => Outcome.isRaised r
  | _ => false

/-- A program in which no reading of the upstream stream raises. -/
def Unraised {α : Type} (p : Co K α) : Prop := Prog.Only (fun ev => raisesRead ev = false) p

theorem unraised_onException {w : String} {report : String → List Frame} {outcome : Except Exn Unit} :
    Unraised (onException w report outcome : Co K Unit) := by
  unfold onException
  split
  · exact Prog.Only.ret _
  · exact Prog.Only.bind (Prog.Only.call fun _ => rfl) fun _ => Prog.Only.forEach (fun _ => Prog.Only.ask fun _ => rfl) _
  · exact Prog.Only.raise _

theorem unraised_closeOut [Field K] {w : String} {t0 : K} {tokens : Int} {clientGone streamOk : Bool} :
    Unraised (closeOut w t0 tokens clientGone streamOk) := by
  refine Prog.Only.bind (Prog.Only.bind (Prog.Only.call fun _ => rfl) fun _ => Prog.Only.ret _) fun _ =>
    Prog.Only.bind (Prog.Only.ask fun _ => rfl) fun _ => ?_
  split <;> exact Prog.Only.call fun _ => rfl

/-- What the `try` of the generator did, by what came out of it. -/
structure Tried (streamOk : Bool) (outcome : Except Exn Unit) (t : List (Event (sig K))) : Prop where
  untroubled : ∀ ev ∈ t, Untroubled ev
  inert : ∀ ev ∈ t, Call.inert ev.op = true
  raised : ∀ f, outcome = .error (.exception f) ↔ ∃ ev ∈ t, raises (.exception f) ev
  failed : ∀ f, outcome = .error (.exception f) → streamOk = false

theorem exec_tryOllama {G : DioGateway K} {p : TranslParams} {chunks : List (List UInt8)} {streamOk : Bool}
    {outcome : Except Exn Unit} {t : List (Event (sig K))}
    (h : (tryStream (translateChunks G p Transl.fresh chunks) (finishOllama p)).Exec t (.ok (streamOk, outcome))) :
    Tried streamOk outcome t := by
  have hseq := exec_try h
  refine ⟨?_, ?_, fun f => ?_, ?_⟩
  · exact Prog.Only.bind (untroubled_translateChunks chunks fun _ hf => absurd hf List.not_mem_nil) (fun _ => untroubled_finishOllama) _ _ hseq
  · exact Prog.Only.bind inert_translateChunks (fun _ => inert_finishOllama) _ _ hseq
  · have htracks : (raising (.exception f)).Tracks (· = .exception f)
        (translateChunks G p Transl.fresh chunks >>= finishOllama p) :=
      Obligation.Tracks.bind tracks_translateChunks fun _ => tracks_finishOllama
    simpa [raising] using (htracks _ _ hseq).2
  · rintro f rfl
    rcases exec_tryStream h with ⟨a, t₁, t₂, y, -, h2, -, hy⟩ | ⟨e, -, he⟩
    · cases hy
      exact (finishOllama_exception h2).elim
    · cases he
      rfl

section Generator

variable [Field K] {w : String} {t0 : K} {tokens : Int} {streamOk : Bool} {outcome : Except Exn Unit}
  {t₁ t₂ t₃ : List (Event (sig K))} {y₂ y₃ : Except Exn Unit}

/-- An error the client is told of comes from the handlers. -/
theorem raised_of_reported (h1 : Tried streamOk outcome t₁) (h2 : (onException w ndjsonReport outcome).Exec t₂ y₂)
    (h3 : (closeOut w t0 tokens (cancelled? outcome) streamOk).Exec t₃ y₃) (h : BreakReported w (t₁ ++ (t₂ ++ t₃))) :
    BreakRaised (t₁ ++ (t₂ ++ t₃)) := by
  obtain ⟨⟨frame, hframe, herror⟩, e2eMs, n, hfeedback⟩ := h
  have hhandled : ∃ f, outcome = .error (.exception f) := by
    rcases exec_report h2 with ⟨f, _, _, hf, -⟩ | ⟨rfl, -⟩
    · exact ⟨f, hf⟩
    · rw [yielded_append, List.nil_append, frameless_closeOut.yielded h3, List.append_nil] at hframe
      rw [Untroubled.yielded h1.untroubled hframe] at herror
      cases herror
  obtain ⟨f, hf⟩ := hhandled
  obtain ⟨ev, hev, hr⟩ := (h1.raised f).1 hf
  obtain ⟨text, rfl⟩ := raises_exception hr
  refine ⟨⟨text, List.mem_append_left _ hev⟩, ?_⟩
  -- the feedback follows the closing of the stream
  have hmem : ⟨.feedback w e2eMs n false, ()⟩ ∈ t₃ := by
    rcases List.mem_append.1 hfeedback with hm | hm
    · cases h1.inert _ hm
    · exact (List.mem_append.1 hm).resolve_left fun hm => nomatch inert_onException _ _ h2 _ hm
  obtain ⟨now, r, ⟨-, rfl⟩ | ⟨rfl, rfl⟩⟩ := exec_closeOut_cases h3
  · rcases List.mem_cons.1 hmem with hm | hm
    · cases hm
    · cases List.mem_singleton.1 hm
  · exact List.mem_append_right _ (List.mem_append_right _ (by simp))

/-- A break that raises is reported, once the stream is closed. -/
theorem reported_of_raised (h1 : Tried streamOk outcome t₁) (h2 : (onException w ndjsonReport outcome).Exec t₂ y₂)
    (h3 : (closeOut w t0 tokens (cancelled? outcome) streamOk).Exec t₃ y₃) (h : BreakRaised (t₁ ++ (t₂ ++ t₃))) :
    BreakReported w (t₁ ++ (t₂ ++ t₃)) := by
  obtain ⟨⟨text, hraised⟩, hclosed⟩ := h
  obtain ⟨now, r, hclose⟩ := exec_closeOut_cases h3
  have hmem : (⟨.iterEnd, Outcome.raised text⟩ : Event (sig K)) ∈ t₁ := by
    refine (List.mem_append.1 hraised).resolve_right fun hm => ?_
    rcases List.mem_append.1 hm with hm | hm
    · cases unraised_onException _ _ h2 _ hm
    · cases unraised_closeOut _ _ h3 _ hm
  have hout : outcome = .error (.exception (.client text)) := (h1.raised _).2 ⟨_, hmem, rfl⟩
  obtain rfl := h1.failed _ hout
  subst hout
  rcases exec_report h2 with ⟨f, b, r', -, rfl⟩ | ⟨-, hne⟩
  · constructor
    · refine ⟨errorFrame f.text, ?_, rfl⟩
      rw [yielded_append, yielded_append]
      exact List.mem_append_right _ (List.mem_append_left _ (List.mem_singleton_self _))
    · rcases hclose with ⟨hr, rfl⟩ | ⟨-, rfl⟩
      · have hmem₃ : (⟨.aclose .final, Outcome.returned ()⟩ : Event (sig K)) ∈
            [⟨.perfCounter, now⟩, ⟨.aclose .final, r⟩] := by
          rcases List.mem_append.1 hclosed with hm | hm
          · cases h1.inert _ hm
          · exact (List.mem_append.1 hm).resolve_left fun hm => nomatch inert_onException _ _ h2 _ hm
        rcases List.mem_cons.1 hmem₃ with hm | hm
        · cases hm
        · cases List.mem_singleton.1 hm
          cases hr
      · refine ⟨(now - t0) * 1000, tokens, List.mem_append_right _ (List.mem_append_right _ ?_)⟩
        exact List.mem_cons_of_mem _ (List.mem_cons_of_mem _ (List.mem_singleton_self _))
  · exact absurd rfl (hne _)

/-- A generator that reports a break had one raised. -/
theorem BreakReported.raised {G : DioGateway K} {p : TranslParams} {chunks : List (List UInt8)} {t : List (Event (sig K))}
    {x : Except Exn Unit} (hr : BreakReported w t) (h : (ollamaGen G w t0 tokens p).Exec (⟨.aiterBytes, chunks⟩ :: t) x) :
    BreakRaised t := by
  obtain ⟨streamOk, outcome, t₁, t₂, t₃, h1, ⟨y₂, h2⟩, ⟨y₃, h3⟩, rfl⟩ := exec_relayed_try (exec_ollamaGen.1 h)
  exact raised_of_reported (exec_tryOllama h1) h2 h3 hr

end Generator

/-! ## An engine that died -/

/-- The generator's run for some chunks, from their delivery on, its calls answered by `A`. -/
def generated (A : Answers) (chunks : List (List UInt8)) : List (Event (sig ℚ)) × Except Exn Unit :=
  Prog.run (Answers.env A) (relayed "gpu0" 0 1 (translateChunks oneBackend chatParams Transl.fresh chunks)
    (finishOllama chatParams) ndjsonReport)

/-- The event another gateway sends when its engine dies. -/
def errorText : List Char :=
  "\x7b\"error\": \x7b\"message\": \"upstream stream failed: reset\", \"type\": \"dio_stream_error\"\x7d\x7d".toList

/-- Its lines, and the end of the stream. -/
def errorLines : List (List Char) := ["data: ".toList ++ errorText, [], "data: [DONE]".toList, []]

def errorStream : List (List UInt8) := atOnce errorLines

theorem lines_errorStream : lines (decodeChunks errorStream) = (errorLines, []) := by
  refine lines_atOnce (plainLines_of_all ?_)
  unfold errorLines errorText
  -- the literals as lists first: the kernel is slow to read a string
  rw [String.toList_ofList, String.toList_ofList, String.toList_ofList]
  decide +kernel

theorem errorData_errorText : ErrorData errorText := by
  refine ⟨[("error", .obj [("message", .str "upstream stream failed: reset"), ("type", .str "dio_stream_error")])],
    loads_of_beq ?_, rfl, rfl⟩
  unfold errorText
  rw [String.toList_ofList]
  decide +kernel

theorem dataOf_errorLine : dataOf oneBackend.U ("data: ".toList ++ errorText) = some errorText := by
  unfold errorText dataOf
  decide +kernel

theorem hasErrorEvent_errorStream : HasErrorEvent oneBackend.U errorStream :=
  ⟨[], _, _, errorText, congrArg Prod.fst lines_errorStream, nofun, dataOf_errorLine, errorData_errorText⟩

/-- A request booked as a success. -/
def succeeded : Event (sig K) → Bool
  | ⟨.feedback _ _ _ success, _⟩ => success
  | _ => false

end Dio.Gateway
