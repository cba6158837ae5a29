/-
The translation of a stream and the cuts of its bytes: after the chunks were delivered the generator
depends on them only through the text each of them decodes to, and so two deliveries of one stream
cannot be told apart when no cut is inside a character.
-/
import DioServe.Gateway.Slots

namespace Dio.Gateway

open Data Py Effect Text.Lines Text.Utf8

/-! ## Frames only come after frames -/

/-- A step that keeps the frames there are. -/
def Grows {α : Type} (m : TranslM α) : Prop := ∀ st : Transl, st.out <+: (m st).2.out

/-- A step that adds frames with a property to those there are. -/
def Adds {α : Type} (Q : Json → Prop) (m : TranslM α) : Prop :=
  ∀ st : Transl, ∃ new, (m st).2.out = st.out ++ new ∧ ∀ frame ∈ new, Q frame

variable {Q : Json → Prop}

theorem Adds.grows {α : Type} {m : TranslM α} (h : Adds Q m) : Grows m := fun st => by
  obtain ⟨new, hnew, -⟩ := h st
  rw [hnew]
  exact List.prefix_append st.out new

/-- A step that adds no frame. -/
theorem Adds.none {α : Type} {m : TranslM α} (h : ∀ st, (m st).2.out = st.out) : Adds Q m := fun st =>
  ⟨[], by rw [h, List.append_nil], nofun⟩

theorem Adds.pure {α : Type} (a : α) : Adds Q (Pure.pure a : TranslM α) := Adds.none fun _ => rfl

theorem Adds.liftPy {α : Type} (x : Except PyErr α) : Adds Q (Gateway.liftPy x) := Adds.none fun _ => rfl

theorem Adds.bind {α β : Type} {m : TranslM α} {f : α → TranslM β} (hm : Adds Q m) (hf : ∀ a, Adds Q (f a)) :
    Adds Q (m >>= f) := by
  intro st
  have h : ((m >>= f) st).2 = match m st with
      | (.ok a, st') => (f a st').2
      | (.error _, st') => st' := by
    show (ExceptT.bind m f st).2 = _
    unfold ExceptT.bind ExceptT.mk
    show ((ExceptT.bindCont f (m st).1) (m st).2).2 = _
    rcases m st with ⟨a | a, st'⟩ <;> rfl
  obtain ⟨new, hnew, hQ⟩ := hm st
  rw [h]
  rcases hst : m st with ⟨a | a, st'⟩
  · rw [hst] at hnew
    exact ⟨new, hnew, hQ⟩
  · rw [hst] at hnew
    obtain ⟨new', hnew', hQ'⟩ := hf a st'
    refine ⟨new ++ new', ?_, fun frame hframe => (List.mem_append.1 hframe).elim (hQ frame) (hQ' frame)⟩
    dsimp only at hnew ⊢
    rw [hnew', hnew, List.append_assoc]

theorem Adds.emit {frame : Transl → Json} (h : ∀ st, Q (frame st)) : Adds Q (Gateway.emit frame) := fun st =>
  ⟨[frame st], rfl, fun _ hf => List.mem_singleton.1 hf ▸ h st⟩

theorem Adds.onSlot (idx : Int) (f : ToolSlot → ToolSlot) : Adds Q (Gateway.onSlot idx f) := Adds.none fun _ => rfl

theorem Adds.ite {α : Type} {c : Prop} {_ : Decidable c} {m n : TranslM α} (hm : Adds Q m) (hn : Adds Q n) :
    Adds Q (if c then m else n) := by
  split
  · exact hm
  · exact hn

/-- A step taken only when a member is given. -/
theorem Adds.optional {α : Type} {c : Prop} {_ : Decidable c} {m : TranslM Unit} {k : Unit → TranslM α} (hm : Adds Q m)
    (hk : ∀ r, Adds Q (k r)) : Adds Q (if c then m >>= k else k ()) :=
  Adds.ite (Adds.bind hm hk) (hk ())

variable (U : Unicode) (p : TranslParams)

/-- Recording a count the engine reports. -/
theorem Adds.report {α : Type} {c : Prop} {_ : Decidable c} (v : Json) {f : Int → Transl → Transl} {k : Unit → TranslM α}
    (hf : ∀ n st, (f n st).out = st.out) (hk : ∀ r, Adds Q (k r)) :
    Adds Q (if c then (do
      let n ← Gateway.liftPy (v.toInt U)
      let r ← modify (f n)
      k r) else k ()) :=
  Adds.ite (Adds.bind (Adds.liftPy _) fun n => Adds.bind (Adds.none (hf n)) hk) (hk ())

/-- The frames of generated text and of tool calls have a property. -/
structure FramesHave (Q : Json → Prop) (p : TranslParams) : Prop where
  content : ∀ text, Q (contentFrame p text)
  tool : ∀ acc, Q (toolFrame p acc)

theorem adds_onUsage (usage : Json) : Adds Q (onUsage U usage) := by
  unfold onUsage
  split
  · refine Adds.report U _ (fun _ _ => rfl) fun _ => ?_
    exact Adds.ite (Adds.bind (Adds.liftPy _) fun n => Adds.none fun _ => rfl) (Adds.pure ())
  · exact Adds.pure ()

variable {p} (hQ : FramesHave Q p)

include hQ in
theorem adds_onFragment (frag : Json) : Adds Q (onFragment U p frag) := by
  unfold onFragment
  refine Adds.bind (Adds.liftPy _) fun idx => Adds.bind (Adds.liftPy _) fun idx => Adds.bind ?_ fun _ => ?_
  · refine Adds.none fun st => ?_
    show (if _ then st else _).out = st.out
    split <;> rfl
  · refine Adds.bind (Adds.liftPy _) fun fn => Adds.bind (Adds.liftPy _) fun id => ?_
    refine Adds.optional (Adds.onSlot _ _) fun _ => Adds.bind (Adds.liftPy _) fun name => ?_
    refine Adds.optional (Adds.onSlot _ _) fun _ => Adds.bind (Adds.liftPy _) fun arguments => ?_
    exact Adds.optional (Adds.onSlot _ _) fun _ => Adds.emit fun st => hQ.tool st.toolCalls

include hQ in
theorem adds_onFragments : ∀ frags : List Json, Adds Q (onFragments U p frags)
  | [] => Adds.pure ()
  | frag :: frags => Adds.bind (adds_onFragment U hQ frag) fun _ => adds_onFragments frags

include hQ in
theorem adds_onChoice (choice : Json) : Adds Q (onChoice U p choice) := by
  unfold onChoice
  refine Adds.bind (Adds.liftPy _) fun finish => ?_
  refine Adds.optional (Adds.none fun _ => rfl) fun _ => ?_
  refine Adds.ite ?_ ?_
  · refine Adds.bind (Adds.liftPy _) fun delta => Adds.bind (Adds.liftPy _) fun text => ?_
    refine Adds.optional (Adds.emit fun _ => hQ.content _) fun _ => Adds.bind (Adds.liftPy _) fun calls => ?_
    exact Adds.bind (Adds.liftPy _) fun frags => adds_onFragments U hQ frags
  · exact Adds.bind (Adds.liftPy _) fun text => Adds.ite (Adds.emit fun _ => hQ.content _) (Adds.pure ())

include hQ in
theorem adds_onEvent (chunk : Json) : Adds Q (onEvent U p chunk) := by
  unfold onEvent
  refine Adds.bind (Adds.liftPy _) fun usage => Adds.bind (adds_onUsage U usage) fun _ => ?_
  refine Adds.bind (Adds.liftPy _) fun choices => Adds.ite ?_ (Adds.pure ())
  exact Adds.bind (Adds.liftPy _) fun choice => adds_onChoice U hQ choice

variable (p)

theorem grows_onEvent (chunk : Json) : Grows (onEvent U p chunk) :=
  (adds_onEvent U (Q := fun _ => True) ⟨fun _ => trivial, fun _ => trivial⟩ chunk).grows

/-- What every event keeps, a line keeps. -/
theorem onLine_keeps {P : Transl → Prop} (h : ∀ chunk st, P st → P (onEvent U p chunk st).2) (st : Transl)
    (line : List Char) (hst : P st) : P (onLine U p st line).1 := by
  unfold onLine
  dsimp only
  split
  · split
    · exact hst
    · split
      · exact h _ st hst
      · exact hst
  · exact hst

/-- What every event keeps, a stream keeps. -/
theorem foldl_onChunk_keeps {P : Transl → Prop} (h : ∀ chunk st, P st → P (onEvent U p chunk st).2) :
    ∀ (chunks : List (List UInt8)) {st : Feed Transl}, P st.state → P (chunks.foldl (onChunk U p) st).state
  | [], _, hst => hst
  | chunk :: chunks, _, hst => foldl_onChunk_keeps h chunks (feed_keeps (onLine_keeps U p h) (decode chunk) hst)

theorem prefix_onChunk (st : Feed Transl) (chunk : List UInt8) : st.state.out <+: (onChunk U p st chunk).state.out :=
  feed_keeps (P := fun s => st.state.out <+: s.out)
    (onLine_keeps U p fun chunk s hs => hs.trans (grows_onEvent U p chunk s)) (decode chunk) (List.prefix_refl _)

theorem prefix_foldl_onChunk : ∀ (chunks : List (List UInt8)) (st : Feed Transl),
    st.state.out <+: (chunks.foldl (onChunk U p) st).state.out
  | [], _ => List.prefix_refl _
  | chunk :: chunks, st => (prefix_onChunk U p st chunk).trans (prefix_foldl_onChunk chunks _)

/-- A translation that has ended takes in no more. -/
theorem foldl_onChunk_stopped {st : Feed Transl} (h : st.stopped = true) : ∀ chunks : List (List UInt8),
    chunks.foldl (onChunk U p) st = st
  | [] => rfl
  | chunk :: chunks => by
    have hstep : onChunk U p st chunk = st := by unfold onChunk feed; rw [if_pos h]
    rw [List.foldl_cons, hstep]
    exact foldl_onChunk_stopped h chunks

/-! ## The generator after its chunks -/

variable {K : Type}

/-- Yield the frames; a translation that has not ended waits for the end of the stream. -/
def yieldTranslation (frames : List Json) (st : Feed Transl) : Co K (Feed Transl) := do
  yieldAll (frames.map .ndjson)
  if st.stopped then return st
  else do
    iterEnd
    return st

/-- Translating chunk by chunk yields the frames of the whole. -/
theorem translateChunks_eq (G : DioGateway K) {p : TranslParams} : ∀ (chunks : List (List UInt8)) {st : Feed Transl},
    st.stopped = false → translateChunks G p st chunks =
      yieldTranslation ((chunks.foldl (onChunk G.U p) st).state.out.drop st.state.out.length)
        (chunks.foldl (onChunk G.U p) st)
  | [], st, hst => by
    rw [List.foldl_nil, List.drop_length, yieldTranslation, hst]
    rfl
  | chunk :: chunks, st, _ => by
    obtain ⟨new, hnew⟩ := prefix_onChunk G.U p st chunk
    unfold translateChunks
    dsimp only
    rw [List.foldl_cons]
    cases hstop : (onChunk G.U p st chunk).stopped with
    | true =>
      rw [foldl_onChunk_stopped G.U p hstop, yieldTranslation, hstop]
      rfl
    | false =>
      obtain ⟨rest, hrest⟩ := prefix_foldl_onChunk G.U p chunks (onChunk G.U p st chunk)
      have ih := translateChunks_eq G (p := p) chunks hstop
      have hdrop : (chunks.foldl (onChunk G.U p) (onChunk G.U p st chunk)).state.out.drop st.state.out.length =
          new ++ (chunks.foldl (onChunk G.U p) (onChunk G.U p st chunk)).state.out.drop
            (onChunk G.U p st chunk).state.out.length := by
        rw [← hrest, List.drop_left, ← hnew, List.append_assoc, List.drop_left]
      rw [if_neg Bool.false_ne_true, ih, hdrop, ← hnew, List.drop_left]
      unfold yieldTranslation yieldAll
      rw [List.map_append, Prog.forEach_append, Prog.bind_assoc]

/-- The chunks matter only through the text they decode to. -/
theorem translateChunks_congr {G : DioGateway K} {p : TranslParams} {c₁ c₂ : List (List UInt8)}
    (h : decodeChunks c₁ = decodeChunks c₂) : translateChunks G p Transl.fresh c₁ = translateChunks G p Transl.fresh c₂ := by
  rw [translateChunks_eq G c₁ rfl, translateChunks_eq G c₂ rfl, foldl_onChunk, foldl_onChunk, h]

section Generator

variable [Field K]

/-- The generator once its chunks are delivered. -/
theorem exec_ollamaGen {G : DioGateway K} {w : String} {t0 : K} {tokens : Int} {p : TranslParams}
    {chunks : List (List UInt8)} {t : List (Event (sig K))} {x : Except Exn Unit} :
    (ollamaGen G w t0 tokens p).Exec (⟨.aiterBytes, chunks⟩ :: t) x ↔
      (relayed w t0 tokens (translateChunks G p Transl.fresh chunks) (finishOllama p) ndjsonReport).Exec t x := by
  constructor
  · rintro ⟨_, _, h, hexec⟩
    cases h
    exact hexec
  · intro h
    exact ⟨chunks, t, rfl, h⟩

end Generator

/-! ## A stream cut inside a character -/

/-- The bytes of an ASCII text. -/
def ascii (s : String) : List UInt8 := s.toList.map fun c => UInt8.ofNat c.toNat

/-- Lines of ASCII characters. -/
def PlainLines (ls : List (List Char)) : Prop := ∀ l ∈ ls, ∀ c ∈ l, c ≠ '\n' ∧ c.toNat < 128

theorem plainLines_of_all {ls : List (List Char)}
    (h : (ls.all fun l => l.all fun c => c.toNat != 10 && c.toNat.blt 128) = true) : PlainLines ls := by
  intro l hl c hc
  have hplain := List.all_eq_true.1 (List.all_eq_true.1 h l hl) c hc
  rw [Bool.and_eq_true, bne_iff_ne, Nat.blt_eq] at hplain
  exact ⟨fun hn => hplain.1 (hn ▸ rfl), hplain.2⟩

/-- Lines delivered at once. -/
def atOnce (ls : List (List Char)) : List (List UInt8) := [ascii (String.ofList (unlines ls))]

theorem decodeChunks_atOnce {ls : List (List Char)} (h : PlainLines ls) : decodeChunks (atOnce ls) = unlines ls := by
  rw [decodeChunks, atOnce, List.flatMap_cons, List.flatMap_nil, List.append_nil, ascii, String.toList_ofList]
  refine decode_ascii fun c hc => ?_
  obtain ⟨l, hl, hc⟩ := List.mem_flatMap.1 hc
  rcases List.mem_append.1 hc with hc | hc
  · exact (h l hl c hc).2
  · rw [List.mem_singleton.1 hc]; decide

theorem lines_atOnce {ls : List (List Char)} (h : PlainLines ls) : lines (decodeChunks (atOnce ls)) = (ls, []) := by
  rw [decodeChunks_atOnce h]
  exact lines_unlines fun l hl hn => (h l hl _ hn).1 rfl

/-- The first part of an event whose text is one character of two bytes, with the first byte. -/
def eventHead : List UInt8 := ascii "data: \x7b\"choices\":[\x7b\"delta\":\x7b\"content\":\"" ++ [0xC3]

/-- The second byte and the rest of the stream. -/
def eventTail : List UInt8 := 0xA9 :: ascii "\"\x7d\x7d]\x7d\n\ndata: [DONE]\n\n"

/-- The parameters of a chat with the model `m`. -/
def chatParams : TranslParams := ⟨true, .str "m", 1⟩

/-- A stream translated to its end, from the delivery of its chunks on. -/
def translated (chunks : List (List UInt8)) : List (Event (sig ℚ)) × Except Exn Unit :=
  Prog.run (Answers.env {}) (relayed "gpu0" 0 1 (translateChunks oneBackend chatParams Transl.fresh chunks)
    (finishOllama chatParams) ndjsonReport)

theorem exec_translated (chunks : List (List UInt8)) :
    (ollamaGen oneBackend "gpu0" 0 1 chatParams).Exec (⟨.aiterBytes, chunks⟩ :: (translated chunks).1) (translated chunks).2 :=
  exec_ollamaGen.2 (Prog.exec_run _ _)

/-- The frames a history yields, in Python's notation. -/
def frames (t : List (Event (sig ℚ))) : List String :=
  t.filterMap fun ev =>
    match ev.op with
    | .yield (.ndjson frame) => some (repr .ascii frame)
    | _ => none

end Dio.Gateway
