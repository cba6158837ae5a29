/-
The translation of a streamed reply, whatever its cut: each event adds its piece of the text and its
fragments, so the state after the last one is the reply's own.
-/
import DioServe.Gateway.Reply

namespace Dio.Gateway

open Data Py

/-! ## Steps of the translation -/

section Steps

variable {α : Type} (st : Transl)

@[simp] theorem liftPy_ok_bind (a : α) {β : Type} (k : α → TranslM β) : (liftPy (.ok a) >>= k) st = k a st := rfl

@[simp] theorem modify_bind (f : Transl → Transl) (k : Unit → TranslM α) :
    ((modify f : TranslM Unit) >>= k) st = k () (f st) := rfl

theorem emit_bind (frame : Transl → Json) (k : Unit → TranslM α) :
    (emit frame >>= k) st = k () { st with genTokens := st.genTokens + 1, out := st.out ++ [frame st] } := rfl

omit st in
theorem bind_of_ok {β : Type} {m : TranslM α} {a : α} {st st' : Transl} (h : m st = (.ok a, st')) (k : α → TranslM β) :
    (m >>= k) st = k a st' := by
  show (ExceptT.bind m k) st = _
  unfold ExceptT.bind ExceptT.mk
  show (ExceptT.bindCont k (m st).1) (m st).2 = _
  rw [h]
  rfl

end Steps

/-! ## Members -/

theorem TextMember.orElse {kvs : Obj} {k s : String} (h : TextMember kvs k s) :
    ((Dict.get? kvs k).getD .null).orElse (.str "") = .str s := by
  rcases h with h | ⟨rfl, h | h⟩
  · rw [h]
    by_cases hs : s = ""
    · subst hs; rfl
    · exact Json.orElse_of_truthy _ (by simpa [Json.truthy] using hs)
  · rw [h]; rfl
  · rw [h]; rfl

/-- A given text is read as it is. -/
theorem TextMember.eq_of_truthy {kvs : Obj} {k s : String} (h : TextMember kvs k s) (hs : s ≠ "") :
    (Dict.get? kvs k).getD .null = .str s := by
  rcases h with h | ⟨rfl, -⟩
  · rw [h]; rfl
  · exact absurd rfl hs

theorem TextMember.truthy {kvs : Obj} {k s : String} (h : TextMember kvs k s) :
    ((Dict.get? kvs k).getD .null).truthy = true ↔ s ≠ "" := by
  rcases h with h | ⟨rfl, h | h⟩
  · rw [h]; simp [Json.truthy]
  · rw [h]; simp [Json.truthy]
  · rw [h]; simp [Json.truthy]

/-- `d or {}` of a mapping. -/
theorem orElse_obj (kvs : Obj) : (Json.obj kvs).orElse (.obj []) = .obj kvs := by
  cases kvs <;> rfl

/-! ## Tool calls -/

/-- The slot of a tool call before its first fragment. -/
def ToolSlot.empty : ToolSlot := ⟨.null, .str "", ""⟩

def ToolSlot.add (s : ToolSlot) (f : Fragment) : ToolSlot where
  id := if f.id = "" then s.id else .str f.id
  name := if f.name = "" then s.name else .str f.name
  arguments := s.arguments ++ f.arguments

/-- A slot changed where a text is given. -/
def ToolSlot.given (s : String) (f : Json → ToolSlot → ToolSlot) (slot : ToolSlot) : ToolSlot :=
  if s = "" then slot else f (.str s) slot

/-- A fragment gives an id, a name and arguments. -/
theorem given_add (U : Unicode) (f : Fragment) (s : ToolSlot) :
    ToolSlot.given f.arguments (fun v s => { s with arguments := s.arguments ++ str U v })
      (ToolSlot.given f.name (fun v s => { s with name := v }) (ToolSlot.given f.id (fun v s => { s with id := v }) s)) =
      s.add f := by
  by_cases hi : f.id = "" <;> by_cases hn : f.name = "" <;> by_cases ha : f.arguments = "" <;>
    simp [ToolSlot.given, ToolSlot.add, str, hi, hn, ha]

/-- The slots after a fragment. -/
def addFragment (acc : Dict Int ToolSlot) (f : Fragment) : Dict Int ToolSlot :=
  Dict.modify (if Dict.contains acc f.index then acc else Dict.set acc f.index .empty) f.index fun s => s.add f

/-- The translation after a fragment. -/
def Transl.addFragment (p : TranslParams) (st : Transl) (f : Fragment) : Transl :=
  { st with
    toolCalls := Gateway.addFragment st.toolCalls f
    genTokens := st.genTokens + 1
    out := st.out ++ [toolFrame p (Gateway.addFragment st.toolCalls f)] }

/-- The translation after a piece of the reply. -/
def Transl.addDelta (p : TranslParams) (st : Transl) (d : Delta) : Transl :=
  let st := if d.finish = "" then st else { st with lastFinish := .str d.finish }
  let st := if d.text = "" then st
    else { st with genTokens := st.genTokens + 1, out := st.out ++ [contentFrame p (.str d.text)] }
  d.fragments.foldl (Transl.addFragment p) st

theorem onSlot_bind {α : Type} (idx : Int) (f : ToolSlot → ToolSlot) (k : Unit → TranslM α) (st : Transl) :
    (onSlot idx f >>= k) st = k () { st with toolCalls := Dict.modify st.toolCalls idx f } := rfl

/-- A slot is changed where a text is given. -/
theorem onSlot_given {α : Type} {kvs : Obj} {k s : String} (h : TextMember kvs k s) (idx : Int)
    (f : Json → ToolSlot → ToolSlot) (next : Unit → TranslM α) (st : Transl) :
    (if ((Dict.get? kvs k).getD .null).truthy then onSlot idx (f ((Dict.get? kvs k).getD .null)) >>= next else next ()) st =
      next () { st with toolCalls := Dict.modify st.toolCalls idx (ToolSlot.given s f) } := by
  by_cases hs : s = ""
  · have hno : ¬ ((Dict.get? kvs k).getD .null).truthy = true := fun ht => h.truthy.1 ht hs
    have hid : Dict.modify st.toolCalls idx (ToolSlot.given s f) = st.toolCalls := by
      simp [Dict.modify, ToolSlot.given, hs]
    rw [if_neg hno, hid]
  · rw [if_pos (h.truthy.2 hs), h.eq_of_truthy hs, onSlot_bind]
    have hgiven : ToolSlot.given s f = f (.str s) := funext fun slot => if_neg hs
    rw [hgiven]

theorem modify_modify {κ α : Type} [DecidableEq κ] (d : Dict κ α) (k : κ) (f g : α → α) :
    Dict.modify (Dict.modify d k f) k g = Dict.modify d k fun v => g (f v) := by
  unfold Dict.modify
  rw [List.map_map]
  refine List.map_congr_left fun p _ => ?_
  by_cases h : p.1 = k <;> simp [h]

variable {U : Unicode} {p : TranslParams}

theorem onFragment_written {f : Fragment} {j : Json} (h : f.Written j) (st : Transl) :
    onFragment U p j st = (.ok (), st.addFragment p f) := by
  obtain ⟨kvs, fn, rfl, hindex, hid, hfn, hname, harguments⟩ := h
  have hidx : ((Json.int f.index).orElse (.int 0)).toInt U = .ok (f.index : Int) := by
    unfold Json.orElse
    split
    · rfl
    · rename_i hz
      have hzero : f.index = 0 := by simpa [Json.truthy] using hz
      rw [hzero]; rfl
  -- the first fragment of an index opens its slot
  have hopen : (if Dict.contains st.toolCalls (f.index : Int) = true then st
      else { st with toolCalls := Dict.set st.toolCalls (f.index : Int) ⟨.null, .str "", ""⟩ }) =
      { st with toolCalls := if Dict.contains st.toolCalls (f.index : Int) then st.toolCalls
          else Dict.set st.toolCalls (f.index : Int) .empty } := by
    split <;> rfl
  unfold onFragment
  simp only [Json.get_obj, hindex, hfn, Option.getD_some, liftPy_ok_bind, hidx, modify_bind, orElse_obj, hopen]
  refine (onSlot_given hid _ (fun v s => { s with id := v }) _ _).trans ?_
  rw [liftPy_ok_bind]
  refine (onSlot_given hname _ (fun v s => { s with name := v }) _ _).trans ?_
  rw [liftPy_ok_bind]
  refine (onSlot_given harguments _ (fun v s => { s with arguments := s.arguments ++ str U v }) _ _).trans ?_
  simp only [modify_modify, given_add]
  rfl

theorem onFragments_written : ∀ {fs : List Fragment} {js : List Json}, List.Forall₂ Fragment.Written fs js →
    ∀ st : Transl, onFragments U p js st = (.ok (), fs.foldl (Transl.addFragment p) st)
  | [], _, .nil, _ => rfl
  | f :: fs, _, .cons h hs, st => by
    unfold onFragments
    rw [bind_of_ok (onFragment_written h st)]
    exact onFragments_written hs _

/-! ## Events -/

/-- A change made where a text is given. -/
theorem change_given {α : Type} {kvs : Obj} {k s : String} (h : TextMember kvs k s) (f : Json → Transl → Transl)
    (next : Unit → TranslM α) (st : Transl) :
    (if ((Dict.get? kvs k).getD .null).truthy then modify (f ((Dict.get? kvs k).getD .null)) >>= next else next ()) st =
      next () (if s = "" then st else f (.str s) st) := by
  by_cases hs : s = ""
  · rw [if_neg (fun ht => h.truthy.1 ht hs), if_pos hs]
  · rw [if_pos (h.truthy.2 hs), h.eq_of_truthy hs, modify_bind, if_neg hs]

/-- A text yielded where it is not empty. -/
theorem emit_given {α : Type} (s : String) (frame : Transl → Json) (next : Unit → TranslM α) (st : Transl) :
    (if (Json.str s).truthy then emit frame >>= next else next ()) st = next () (if s = "" then st
      else { st with genTokens := st.genTokens + 1, out := st.out ++ [frame st] }) := by
  by_cases hs : s = ""
  · subst hs; rfl
  · rw [if_pos (by simpa [Json.truthy] using hs), emit_bind, if_neg hs]

theorem ListMember.elems {α : Type} {Written : α → Json → Prop} {kvs : Obj} {k : String} {xs : List α}
    (h : ListMember Written kvs k xs) :
    ∃ js, (((Dict.get? kvs k).getD .null).orElse (.arr [])).elems = .ok js ∧ List.Forall₂ Written xs js := by
  rcases h with ⟨js, hk, hjs⟩ | ⟨rfl, hk | hk⟩
  · refine ⟨js, ?_, hjs⟩
    rw [hk]
    cases js <;> rfl
  · exact ⟨[], by rw [hk]; rfl, .nil⟩
  · exact ⟨[], by rw [hk]; rfl, .nil⟩

theorem onChoice_written {d : Delta} {choice : Obj} (hfinish : TextMember choice "finish_reason" d.finish)
    (h : d.Generated p.isChat choice) (st : Transl) : onChoice U p (.obj choice) st = (.ok (), st.addDelta p d) := by
  unfold onChoice
  rw [Json.get_obj, liftPy_ok_bind]
  refine (change_given hfinish (fun v st => { st with lastFinish := v }) _ _).trans ?_
  unfold Delta.Generated at h
  unfold Transl.addDelta
  cases hchat : p.isChat with
  | true =>
    rw [hchat, if_pos rfl] at h
    obtain ⟨delta, hdelta, htext, hcalls⟩ := h
    obtain ⟨js, helems, hjs⟩ := hcalls.elems
    simp only [if_true, Json.get_obj, hdelta, Option.getD_some, liftPy_ok_bind, orElse_obj, htext.orElse]
    apply (emit_given d.text _ _ _).trans
    rw [liftPy_ok_bind, helems, liftPy_ok_bind]
    exact onFragments_written hjs _
  | false =>
    rw [hchat, if_neg Bool.false_ne_true] at h
    obtain ⟨htext, hnone⟩ := h
    simp only [Bool.false_eq_true, if_false, Json.get_obj, liftPy_ok_bind, htext.orElse, hnone, List.foldl_nil]
    by_cases hs : d.text = ""
    · rw [hs]; rfl
    · rw [if_pos (by simpa [Json.truthy] using hs), if_neg hs]; rfl

/-- The translation after an event with a piece of the reply. -/
theorem onEvent_delta {d : Delta} {event : Json} (h : d.Written p.isChat event) (st : Transl) :
    (onEvent U p event st).2 = st.addDelta p d := by
  obtain ⟨kvs, choice, rest, rfl, husage, hchoices, hfinish, hgen⟩ := h
  have hnull : (Dict.get? kvs "usage").getD .null = .null := by
    rcases husage with h | h <;> rw [h] <;> rfl
  unfold onEvent
  rw [Json.get_obj, liftPy_ok_bind, hnull, bind_of_ok (show onUsage U .null st = (.ok (), st) from rfl), Json.get_obj,
    liftPy_ok_bind, hchoices]
  exact congrArg Prod.snd (onChoice_written hfinish hgen st)

/-- The translation after the usage chunk. -/
theorem onEvent_usage {prompt completion : Int} {event : Json} (h : UsageEvent prompt completion event) (st : Transl) :
    (onEvent U p event st).2 = { st with reportedPrompt := some prompt, reportedGen := some completion } := by
  obtain ⟨kvs, rfl, ⟨usage, husage, hprompt, hcompletion, -⟩, hchoices⟩ := h
  have hcounts : onUsage U (.obj usage) st =
      (.ok (), { st with reportedPrompt := some prompt, reportedGen := some completion }) := by
    cases usage with
    | nil => cases hprompt
    | cons m ms =>
      unfold onUsage
      simp only [hprompt, hcompletion]
      rfl
  unfold onEvent
  rw [Json.get_obj, liftPy_ok_bind, husage, Option.getD_some, bind_of_ok hcounts, Json.get_obj, liftPy_ok_bind, hchoices]
  rfl

theorem foldl_onEvent_deltas : ∀ {ds : List Delta} {events : List Json}, List.Forall₂ (Delta.Written p.isChat) ds events →
    ∀ st : Transl, events.foldl (fun st e => (onEvent U p e st).2) st = ds.foldl (Transl.addDelta p) st
  | [], _, .nil, _ => rfl
  | d :: ds, _, .cons h hs, st => by
    rw [List.foldl_cons, List.foldl_cons, onEvent_delta h]
    exact foldl_onEvent_deltas hs _

/-! ## Lines -/

theorem pad_space (hU : U.SpacesOnAscii) {cs : List Char} (h : Pad cs) : ∀ c ∈ cs, U.isSpace c = true := by
  intro c hc
  rcases h c hc with rfl | rfl | rfl
  · rw [hU _ (by decide)]; decide
  · rw [hU _ (by decide)]; decide
  · rw [hU _ (by decide)]; decide

/-- What a line with given data is read as. -/
theorem onLine_data (hU : U.SpacesOnAscii) {data line : List Char} (h : DataLine data line) {a b : Char}
    (hfirst : data.head? = some a) (hlast : data.getLast? = some b) (ha : U.isSpace a = false) (hb : U.isSpace b = false)
    (st : Transl) :
    onLine U p st line = if data = "[DONE]".toList then (st, true)
      else match loads (String.ofList data) with
        | .ok chunk => ((onEvent U p chunk st).2, false)
        | .error _ => (st, false) := by
  obtain ⟨pad, pad', hpad, hpad', rfl⟩ := h
  have hd : U.isSpace 'd' = false := by rw [hU _ (by decide)]; decide
  have hcore : ("data:".toList ++ (pad ++ data)).getLast? = some b := by
    rw [List.getLast?_append, List.getLast?_append, hlast]; rfl
  -- the line loses what stands behind the data, the data what stands before it
  have hline : stripChars U ([] ++ ("data:".toList ++ (pad ++ data) ++ pad')) = "data:".toList ++ (pad ++ data) :=
    stripChars_pad U nofun (pad_space hU hpad') (by simpa using hd) fun c hc => by rw [hcore] at hc; cases hc; exact hb
  have hdata : stripChars U (pad ++ (data ++ [])) = data :=
    stripChars_pad U (pad_space hU hpad) nofun (by simpa [hfirst] using ha) (by simpa [hlast] using hb)
  have hdrop : ("data:".toList ++ (pad ++ data)).drop 5 = pad ++ data := List.drop_left' rfl
  rw [List.nil_append, List.append_assoc, List.append_assoc] at hline
  rw [List.append_nil] at hdata
  unfold onLine
  dsimp only
  rw [hline, if_pos (by simp), hdrop]
  generalize stripChars U (pad ++ data) = data' at hdata ⊢
  subst hdata
  rfl

theorem onLine_blank (hU : U.SpacesOnAscii) {line : List Char} (h : Pad line) (st : Transl) :
    onLine U p st line = (st, false) := by
  have hempty : stripChars U (line ++ ([] ++ [])) = [] := stripChars_pad U (pad_space hU h) nofun nofun nofun
  rw [List.append_nil, List.append_nil] at hempty
  unfold onLine
  dsimp only
  rw [hempty]
  rfl

/-- Lines that carry events are handled as the events are, and end the stream. -/
theorem handle_carries (hU : U.SpacesOnAscii) {lines : List (List Char)} {events : List Json} (h : Carries lines events) :
    ∀ st : Transl, Text.Lines.handle (onLine U p) st lines = (events.foldl (fun st e => (onEvent U p e st).2) st, true) := by
  have hascii : ∀ c : Char, c.toNat < 128 → Unicode.ascii.isSpace c = false → U.isSpace c = false := fun c hc h =>
    (hU c hc).trans h
  induction h with
  | @done line lines hline =>
    intro st
    have hstop : onLine U p st line = (st, true) := by
      rw [onLine_data hU hline rfl rfl (hascii _ (by decide) (by decide)) (hascii _ (by decide) (by decide)), if_pos rfl]
    exact Text.Lines.handle_cons_stop hstop _
  | blank hline _ ih =>
    intro st
    rw [Text.Lines.handle_cons_go (onLine_blank hU hline st)]
    exact ih st
  | @event line text lines e events htext hline _ ih =>
    intro st
    obtain ⟨hfirst, hlast, hloads⟩ := htext
    -- an event's text starts with a brace
    have hne : text ≠ "[DONE]".toList := by
      rintro rfl
      cases hfirst
    have hgo : onLine U p st line = ((onEvent U p e st).2, false) := by
      rw [onLine_data hU hline hfirst hlast (hascii _ (by decide) (by decide)) (hascii _ (by decide) (by decide)),
        if_neg hne, hloads]
    rw [Text.Lines.handle_cons_go hgo]
    exact ih _

/-! ## The tool calls together -/

theorem get?_addFragment (acc : Dict Int ToolSlot) (f : Fragment) (i : Int) :
    Dict.get? (addFragment acc f) i =
      if (f.index : Int) = i then some (((Dict.get? acc i).getD .empty).add f) else Dict.get? acc i := by
  unfold addFragment
  rw [Dict.get?_modify]
  by_cases hi : (f.index : Int) = i
  · subst hi
    rw [if_pos rfl, if_pos rfl]
    cases hacc : Dict.get? acc (f.index : Int) with
    | none => simp [Dict.contains, hacc]
    | some slot => simp [Dict.contains, hacc]
  · rw [if_neg (Ne.symm hi), if_neg hi]
    split
    · rfl
    · exact Dict.get?_set_ne hi _ _

/-- A slot after the fragments with its index. -/
def slotAfter (slot : Option ToolSlot) (fs : List Fragment) : Option ToolSlot :=
  fs.foldl (fun slot f => some ((slot.getD .empty).add f)) slot

/-- The slot of an index depends on the fragments with that index only. -/
theorem get?_foldl_addFragment (i : Int) : ∀ (fs : List Fragment) (acc : Dict Int ToolSlot),
    Dict.get? (fs.foldl addFragment acc) i = slotAfter (Dict.get? acc i) (fs.filter fun f => (f.index : Int) = i)
  | [], _ => rfl
  | f :: fs, acc => by
    rw [List.foldl_cons, get?_foldl_addFragment i fs, get?_addFragment]
    by_cases hi : (f.index : Int) = i
    · rw [if_pos hi, List.filter_cons_of_pos (by simpa using hi)]
      rfl
    · rw [if_neg hi, List.filter_cons_of_neg (by simpa using hi)]

theorem nodup_foldl_addFragment : ∀ (fs : List Fragment) {acc : Dict Int ToolSlot}, (Dict.keys acc).Nodup →
    (Dict.keys (fs.foldl addFragment acc)).Nodup
  | [], _, h => h
  | f :: fs, acc, h => by
    apply nodup_foldl_addFragment fs
    unfold addFragment
    rw [Dict.keys_modify]
    split
    · exact h
    · exact Dict.nodup_keys_set h

/-- The slot of a tool call after its fragments. -/
def ToolCall.slot (c : ToolCall) : ToolSlot := ⟨if c.id = "" then .null else .str c.id, .str c.name, c.arguments⟩

theorem slotAfter_rest : ∀ {fs : List Fragment}, (∀ g ∈ fs, g.id = "" ∧ g.name = "") → ∀ s : ToolSlot,
    slotAfter (some s) fs = some { s with arguments := s.arguments ++ String.join (fs.map Fragment.arguments) }
  | [], _, s => by simp [slotAfter, String.join_nil]
  | g :: fs, h, s => by
    obtain ⟨hid, hname⟩ := h g (List.mem_cons_self ..)
    have hrest : ∀ g' ∈ fs, g'.id = "" ∧ g'.name = "" := fun g' hg' => h g' (List.mem_cons_of_mem _ hg')
    have ih := slotAfter_rest hrest (s.add g)
    have hadd : s.add g = { s with arguments := s.arguments ++ g.arguments } := by simp [ToolSlot.add, hid, hname]
    show slotAfter (some (s.add g)) fs = _
    rw [ih, hadd, List.map_cons, String.join_cons, String.append_assoc]

theorem ToolCall.CutInto.slotAfter {c : ToolCall} {fs : List Fragment} (h : c.CutInto fs) :
    Gateway.slotAfter none fs = some c.slot := by
  cases fs with
  | nil => cases h
  | cons f fs =>
    obtain ⟨hid, hname, hrest, hargs⟩ := h
    show Gateway.slotAfter (some (ToolSlot.empty.add f)) fs = _
    rw [slotAfter_rest hrest]
    rw [List.map_cons, String.join_cons] at hargs
    have hempty : (ToolSlot.empty.add f).arguments = f.arguments := String.empty_append
    rw [hempty, hargs]
    simp [ToolSlot.add, ToolSlot.empty, ToolCall.slot, hid, hname, c.named]

theorem filterMap_range_getElem? {α β : Type} : ∀ (xs : List α) (h : Nat → α → β),
    (List.range xs.length).filterMap (fun i => xs[i]?.map (h i)) = xs.mapIdx h
  | [], _ => rfl
  | x :: xs, h => by
    have ih := filterMap_range_getElem? xs fun i => h (i + 1)
    rw [List.length_cons, List.range_succ_eq_map, List.filterMap_cons, List.filterMap_map, List.mapIdx_cons]
    simp only [List.getElem?_cons_zero, Option.map_some, Function.comp_def, List.getElem?_cons_succ]
    exact congrArg _ ih

/-- The tool calls a stream hands back: the reply's, in their order. -/
theorem ollamaToolCallDeltas_cut {calls : List ToolCall} {fs : List Fragment} (h : CutCalls calls fs) :
    ollamaToolCallDeltas (fs.foldl addFragment []) = calls.mapIdx fun i c => toolCallDelta i c.slot := by
  have hget : ∀ i : Nat, Dict.get? (fs.foldl addFragment []) (i : Int) = (calls[i]?).map ToolCall.slot := by
    intro i
    rw [get?_foldl_addFragment, Dict.get?_nil]
    simp only [Int.ofNat_inj]
    cases hc : calls[i]? with
    | some c => exact (h.2 i c hc).slotAfter
    | none =>
      have hnone : fs.filter (fun f => f.index = i) = [] := by
        rw [List.filter_eq_nil_iff]
        intro f hf hfi
        have hlt := h.1 f hf
        have hle := List.getElem?_eq_none_iff.1 hc
        simp only [decide_eq_true_eq] at hfi
        omega
      rw [hnone]; rfl
  have hmem : ∀ i : Int, i ∈ Dict.keys (fs.foldl addFragment []) ↔ i ∈ (List.range calls.length).map Int.ofNat := by
    intro i
    rw [← Dict.get?_isSome_iff]
    cases i with
    | ofNat i =>
      rw [show Int.ofNat i = (i : Int) from rfl, hget]
      simp
    | negSucc i =>
      have hnone : fs.filter (fun f => (f.index : Int) = Int.negSucc i) = [] := by simp
      rw [get?_foldl_addFragment, hnone]
      simp [Dict.get?_nil, slotAfter]
  have hkeys : (Dict.keys (fs.foldl addFragment [])).insertionSort (· ≤ ·) = (List.range calls.length).map Int.ofNat := by
    have hnodup : ((List.range calls.length).map Int.ofNat).Nodup := List.nodup_range.map fun _ _ h => by simpa using h
    have hnodup' : (Dict.keys (fs.foldl addFragment [])).Nodup := nodup_foldl_addFragment fs (by simp [Dict.keys])
    have hperm := (List.perm_ext_iff_of_nodup hnodup' hnodup).2 hmem
    have hsorted : ((List.range calls.length).map Int.ofNat).Pairwise (· ≤ ·) :=
      List.pairwise_map.2 (List.pairwise_le_range.imp fun h => Int.ofNat_le.2 h)
    exact ((List.perm_insertionSort _ _).trans hperm).eq_of_pairwise' (List.pairwise_insertionSort _ _) hsorted
  unfold ollamaToolCallDeltas
  show ((Dict.keys (fs.foldl addFragment [])).insertionSort (· ≤ ·)).filterMap _ = _
  rw [hkeys, List.filterMap_map, ← filterMap_range_getElem? calls]
  refine List.filterMap_congr fun i _ => ?_
  show (Dict.get? (fs.foldl addFragment []) (i : Int)).bind _ = _
  rw [hget]
  cases hc : calls[i]? with
  | none => rfl
  | some c =>
    have hname : c.slot.name.truthy = true := by simp [ToolCall.slot, Json.truthy, c.named]
    show (if (c.slot.name.truthy || decide (c.slot.arguments ≠ "")) = true then some (toolCallDelta i c.slot) else none) = _
    rw [hname, Bool.true_or, if_pos rfl]
    rfl

/-! ## What a client reads -/

/-- A member of an object, null when there is none. -/
def memberOf (k : String) : Json → Json
  | .obj kvs => (Dict.get? kvs k).getD .null
  | _ => .null

/-- The generated text of a frame or a reply in Ollama's dialect. -/
def frameText (isChat : Bool) (frame : Json) : String :=
  match if isChat then memberOf "content" (memberOf "message" frame) else memberOf "response" frame with
  | .str s => s
  | _ => ""

/-- The concatenated text of frames. -/
def textOf (isChat : Bool) (frames : List Json) : String := String.join (frames.map (frameText isChat))

theorem textOf_concat (isChat : Bool) (frames : List Json) (frame : Json) :
    textOf isChat (frames ++ [frame]) = textOf isChat frames ++ frameText isChat frame := by
  rw [textOf, List.map_append, String.join_append]
  simp [textOf, String.join_cons, String.join_nil]

theorem frameText_contentFrame (p : TranslParams) (s : String) : frameText p.isChat (contentFrame p (.str s)) = s := by
  unfold frameText contentFrame
  cases p.isChat <;> rfl

theorem frameText_toolFrame (p : TranslParams) (acc : Dict Int ToolSlot) : frameText p.isChat (toolFrame p acc) = "" := by
  unfold frameText toolFrame
  cases p.isChat <;> rfl

theorem frameText_finalFrame (p : TranslParams) (st : Transl) : frameText p.isChat (finalFrame p st) = "" := by
  unfold frameText finalFrame
  cases p.isChat with
  | true => cases st.toolCalls.isEmpty <;> rfl
  | false => rfl

/-! ## The state after a stream -/

/-- The state after the events of a streamed reply is the reply's. -/
structure Translated (r : EngineReply) (p : TranslParams) (st : Transl) : Prop where
  text : textOf p.isChat st.out = r.text
  reason : ollamaDoneReason st.lastFinish = ollamaDoneReason (.str r.finish)
  prompt : st.reportedPrompt = some r.promptTokens
  completion : st.reportedGen = some r.completionTokens
  calls : ollamaToolCallDeltas st.toolCalls = r.calls.mapIdx fun i c => toolCallDelta i c.slot

/-- What fragments leave alone, and what they add. -/
theorem foldl_addFragment : ∀ (fs : List Fragment) (st : Transl),
    (fs.foldl (Transl.addFragment p) st).toolCalls = fs.foldl addFragment st.toolCalls ∧
      (fs.foldl (Transl.addFragment p) st).lastFinish = st.lastFinish ∧
      textOf p.isChat (fs.foldl (Transl.addFragment p) st).out = textOf p.isChat st.out
  | [], _ => ⟨rfl, rfl, rfl⟩
  | f :: fs, st => by
    obtain ⟨hcalls, hfinish, htext⟩ := foldl_addFragment fs (st.addFragment p f)
    refine ⟨hcalls, hfinish, htext.trans ?_⟩
    show textOf p.isChat (st.out ++ [toolFrame p (addFragment st.toolCalls f)]) = _
    rw [textOf_concat, frameText_toolFrame, String.append_empty]

theorem addDelta_toolCalls (st : Transl) (d : Delta) :
    (st.addDelta p d).toolCalls = d.fragments.foldl addFragment st.toolCalls := by
  unfold Transl.addDelta
  rw [(foldl_addFragment _ _).1]
  by_cases hf : d.finish = "" <;> by_cases ht : d.text = "" <;> simp [hf, ht]

theorem addDelta_lastFinish (st : Transl) (d : Delta) :
    (st.addDelta p d).lastFinish = if d.finish = "" then st.lastFinish else .str d.finish := by
  unfold Transl.addDelta
  rw [(foldl_addFragment _ _).2.1]
  by_cases hf : d.finish = "" <;> by_cases ht : d.text = "" <;> simp [hf, ht]

theorem addDelta_text (st : Transl) (d : Delta) :
    textOf p.isChat (st.addDelta p d).out = textOf p.isChat st.out ++ d.text := by
  unfold Transl.addDelta
  rw [(foldl_addFragment _ _).2.2]
  by_cases hf : d.finish = "" <;> by_cases ht : d.text = "" <;>
    simp [hf, ht, textOf_concat, frameText_contentFrame]

theorem foldl_addDelta_toolCalls : ∀ (ds : List Delta) (st : Transl),
    (ds.foldl (Transl.addDelta p) st).toolCalls = (ds.flatMap Delta.fragments).foldl addFragment st.toolCalls
  | [], _ => rfl
  | d :: ds, st => by
    rw [List.foldl_cons, foldl_addDelta_toolCalls ds, addDelta_toolCalls, List.flatMap_cons, List.foldl_append]

theorem foldl_addDelta_text : ∀ (ds : List Delta) (st : Transl),
    textOf p.isChat (ds.foldl (Transl.addDelta p) st).out = textOf p.isChat st.out ++ String.join (ds.map Delta.text)
  | [], st => by simp [String.join_nil]
  | d :: ds, st => by
    rw [List.foldl_cons, foldl_addDelta_text ds, addDelta_text, List.map_cons, String.join_cons, String.append_assoc]

theorem foldl_addDelta_lastFinish : ∀ (ds : List Delta) (st : Transl), (∀ d ∈ ds, d.finish = "") →
    (ds.foldl (Transl.addDelta p) st).lastFinish = st.lastFinish
  | [], _, _ => rfl
  | d :: ds, st, h => by
    rw [List.foldl_cons, foldl_addDelta_lastFinish ds _ fun d' hd' => h d' (List.mem_cons_of_mem _ hd'),
      addDelta_lastFinish, if_pos (h d (List.mem_cons_self ..))]

/-- Whatever its cut, a streamed reply is translated to the same state. -/
theorem translated_of_streamed {r : EngineReply} {events : List Json} (h : r.Streamed p.isChat events) :
    Translated r p (events.foldl (fun st e => (onEvent U p e st).2) .init) := by
  obtain ⟨deltas, last, es, usage, hcut, hes, husage, rfl⟩ := h
  rw [List.foldl_append, foldl_onEvent_deltas hes, List.foldl_cons, List.foldl_nil, onEvent_usage husage]
  refine ⟨?_, ?_, rfl, rfl, ?_⟩
  · show textOf p.isChat ((deltas ++ [last]).foldl (Transl.addDelta p) .init).out = r.text
    rw [foldl_addDelta_text, hcut.text]
    exact String.empty_append
  · show ollamaDoneReason ((deltas ++ [last]).foldl (Transl.addDelta p) .init).lastFinish = _
    rw [List.foldl_append, List.foldl_cons, List.foldl_nil, addDelta_lastFinish, hcut.finish,
      foldl_addDelta_lastFinish deltas _ hcut.unfinished]
    by_cases hf : r.finish = ""
    · rw [if_pos hf, hf]; rfl
    · rw [if_neg hf]
  · show ollamaToolCallDeltas ((deltas ++ [last]).foldl (Transl.addDelta p) .init).toolCalls = _
    rw [foldl_addDelta_toolCalls]
    exact ollamaToolCallDeltas_cut hcut.calls

/-- The translation of the chunks that deliver a reply ends, in the reply's state. -/
theorem translated_of_delivered (hU : U.SpacesOnAscii) {r : EngineReply} {chunks : List (List UInt8)}
    (h : r.Delivered p.isChat chunks) :
    ∃ st, chunks.foldl (onChunk U p) Transl.fresh = ⟨st, [], true⟩ ∧ Translated r p st := by
  obtain ⟨huncut, ls, events, htext, hlines, hcarries, hstreamed⟩ := h
  refine ⟨_, ?_, translated_of_streamed (U := U) hstreamed⟩
  rw [foldl_onChunk, Text.Utf8.decodeChunks_of_cleanCuts huncut, htext]
  have hhandle := handle_carries (p := p) hU hcarries .init
  unfold Text.Lines.feed Transl.fresh
  rw [if_neg Bool.false_ne_true, List.nil_append]
  dsimp only
  rw [Text.Lines.lines_unlines hlines, hhandle]

end Dio.Gateway
