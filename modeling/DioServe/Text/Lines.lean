/-
A line-at-a-time consumer of text that arrives in pieces: the text not yet ended by a newline is
kept for the next piece, and the consumer may stop. What it does depends only on the concatenation
of the pieces.
-/
import Mathlib.Data.List.Basic
import Mathlib.Tactic.Common

namespace Text.Lines

/-- A property of all characters of a text is decided one by one. -/
instance (priority := high) decidableForallMem {p : Char → Prop} [DecidablePred p] (cs : List Char) :
    Decidable (∀ c ∈ cs, p c) :=
  List.decidableBAll p cs

/-- The complete lines of a text, without their newlines, and what follows the last newline. -/
def lines : List Char → List (List Char) × List Char
  | [] => ([], [])
  | c :: cs =>
    if c = '\n' then ([] :: (lines cs).1, (lines cs).2)
    else match (lines cs).1 with
      | [] => ([], c :: (lines cs).2)
      | l :: ls => ((c :: l) :: ls, (lines cs).2)

/-- What a consumer of lines has come to: its state, the unfinished line, and whether it stopped. -/
structure Feed (σ : Type) where
  state : σ
  buffer : List Char
  stopped : Bool

variable {σ : Type}

/-- Lines handled in order until the handler stops. -/
def handle (f : σ → List Char → σ × Bool) : σ → List (List Char) → σ × Bool
  | s, [] => (s, false)
  | s, l :: ls =>
    match f s l with
    | (s', true) => (s', true)
    | (s', false) => handle f s' ls

/-- Take in a piece of text: handle the lines it completes. A stopped consumer takes in no more. -/
def feed (f : σ → List Char → σ × Bool) (st : Feed σ) (text : List Char) : Feed σ :=
  if st.stopped then st
  else
    let r := lines (st.buffer ++ text)
    match handle f st.state r.1 with
    | (s, true) => ⟨s, [], true⟩
    | (s, false) => ⟨s, r.2, false⟩

/-- Take in pieces of text in order. -/
def feedAll (f : σ → List Char → σ × Bool) (st : Feed σ) (texts : List (List Char)) : Feed σ :=
  texts.foldl (feed f) st

/-! ## Line by line -/

/-- A line after which the consumer goes on. -/
theorem handle_cons_go {f : σ → List Char → σ × Bool} {s s' : σ} {l : List Char} (h : f s l = (s', false))
    (ls : List (List Char)) : handle f s (l :: ls) = handle f s' ls := by
  simp only [handle, h]

/-- A line that stops it. -/
theorem handle_cons_stop {f : σ → List Char → σ × Bool} {s s' : σ} {l : List Char} (h : f s l = (s', true))
    (ls : List (List Char)) : handle f s (l :: ls) = (s', true) := by
  simp only [handle, h]

/-! ## What a consumer keeps -/

/-- What every line keeps, a run of lines keeps. -/
theorem handle_keeps {f : σ → List Char → σ × Bool} {P : σ → Prop} (h : ∀ s l, P s → P (f s l).1) :
    ∀ (ls : List (List Char)) (s : σ), P s → P (handle f s ls).1
  | [], _, hs => hs
  | l :: ls, s, hs => by
    have hl := h s l hs
    simp only [handle]
    cases hf : f s l with
    | mk s' stop =>
      rw [hf] at hl
      cases stop with
      | true => exact hl
      | false => exact handle_keeps h ls s' hl

theorem feed_keeps {f : σ → List Char → σ × Bool} {P : σ → Prop} (h : ∀ s l, P s → P (f s l).1) {st : Feed σ}
    (text : List Char) (hst : P st.state) : P (feed f st text).state := by
  have hall := handle_keeps h (lines (st.buffer ++ text)).1 st.state hst
  unfold feed
  split
  · exact hst
  · dsimp only
    rcases hh : handle f st.state (lines (st.buffer ++ text)).1 with ⟨s, _ | _⟩ <;> rw [hh] at hall <;> exact hall

/-- What a consumer that has not stopped comes to. -/
theorem state_feed (f : σ → List Char → σ × Bool) {st : Feed σ} (h : st.stopped = false) (text : List Char) :
    (feed f st text).state = (handle f st.state (lines (st.buffer ++ text)).1).1 := by
  unfold feed
  rw [if_neg (by simp [h])]
  dsimp only
  rcases handle f st.state (lines (st.buffer ++ text)).1 with ⟨s, _ | _⟩ <;> rfl

/-! ## Lines of a concatenation -/

theorem lines_append : ∀ a b : List Char,
    lines (a ++ b) = ((lines a).1 ++ (lines ((lines a).2 ++ b)).1, (lines ((lines a).2 ++ b)).2)
  | [], b => by simp [lines]
  | c :: a, b => by
    have ih := lines_append a b
    by_cases hc : c = '\n'
    · simp [lines, hc, ih]
    · cases hla : (lines a).1 with
      | nil =>
        rw [hla] at ih
        simp [lines, hc, ih, hla]
      | cons l ls =>
        rw [hla] at ih
        simp [lines, hc, ih, hla]

/-- The rest of a text has no complete line. -/
theorem lines_rest : ∀ a : List Char, lines (lines a).2 = ([], (lines a).2)
  | [] => rfl
  | c :: a => by
    have ih := lines_rest a
    by_cases hc : c = '\n'
    · simpa [lines, hc] using ih
    · cases hla : (lines a).1 with
      | nil => simp [lines, hc, hla, ih]
      | cons l ls => simpa [lines, hc, hla] using ih

/-- The text of complete lines. -/
def unlines (ls : List (List Char)) : List Char := ls.flatMap (· ++ ['\n'])

theorem lines_line : ∀ {l : List Char}, '\n' ∉ l → lines (l ++ ['\n']) = ([l], [])
  | [], _ => rfl
  | c :: l, h => by
    have hc : c ≠ '\n' := fun hc => h (hc ▸ List.mem_cons_self ..)
    have ih := lines_line (l := l) fun hl => h (List.mem_cons_of_mem _ hl)
    simp [lines, hc, ih]

/-- Complete lines are read as they are. -/
theorem lines_unlines : ∀ {ls : List (List Char)}, (∀ l ∈ ls, '\n' ∉ l) → lines (unlines ls) = (ls, [])
  | [], _ => rfl
  | l :: ls, h => by
    have ih : lines (unlines ls) = (ls, []) := lines_unlines fun l' hl' => h l' (List.mem_cons_of_mem _ hl')
    rw [unlines, List.flatMap_cons, lines_append, lines_line (h l (List.mem_cons_self ..)), List.nil_append]
    show ([l] ++ (lines (unlines ls)).1, (lines (unlines ls)).2) = _
    rw [ih]
    rfl

theorem handle_append (f : σ → List Char → σ × Bool) : ∀ (s : σ) (ls ms : List (List Char)),
    handle f s (ls ++ ms) = match handle f s ls with
      | (s', true) => (s', true)
      | (s', false) => handle f s' ms
  | s, [], ms => rfl
  | s, l :: ls, ms => by
    simp only [List.cons_append, handle]
    cases h : f s l with
    | mk s' stop =>
      cases stop with
      | true => rfl
      | false => exact handle_append f s' ls ms

/-! ## Pieces -/

/-- The buffer holds no complete line. -/
def Feed.Clean (st : Feed σ) : Prop := lines st.buffer = ([], st.buffer)

theorem clean_feed (f : σ → List Char → σ × Bool) {st : Feed σ} (h : st.Clean) (text : List Char) :
    (feed f st text).Clean := by
  unfold feed
  split
  · exact h
  · dsimp only
    split
    · rfl
    · exact lines_rest _

theorem feed_nil (f : σ → List Char → σ × Bool) {st : Feed σ} (h : st.Clean) : feed f st [] = st := by
  unfold feed
  split
  · rfl
  · rename_i hs
    rw [List.append_nil, h]
    cases st
    simp only [handle] at hs ⊢
    simp_all

/-- Two pieces in a row are as their concatenation. -/
theorem feed_append (f : σ → List Char → σ × Bool) (st : Feed σ) (a b : List Char) :
    feed f (feed f st a) b = feed f st (a ++ b) := by
  cases hst : st.stopped with
  | true => simp [feed, hst]
  | false =>
    have hl := lines_append (st.buffer ++ a) b
    have hh := handle_append f st.state (lines (st.buffer ++ a)).1 (lines ((lines (st.buffer ++ a)).2 ++ b)).1
    cases h : handle f st.state (lines (st.buffer ++ a)).1 with
    | mk s stop =>
      rw [h] at hh
      cases stop with
      | true => simp [feed, hst, h, ← List.append_assoc, hl, hh]
      | false => simp [feed, hst, h, ← List.append_assoc, hl, hh]

/-- What a consumer does depends only on the concatenation of the pieces. -/
theorem feedAll_eq (f : σ → List Char → σ × Bool) : ∀ {st : Feed σ} (texts : List (List Char)), st.Clean →
    feedAll f st texts = feed f st texts.flatten
  | st, [], h => (feed_nil f h).symm
  | st, t :: ts, h => by
    show feedAll f (feed f st t) ts = _
    rw [feedAll_eq f ts (clean_feed f h t), feed_append, List.flatten_cons]

end Text.Lines
