/-
UTF-8, and the decoder that replaces errors: one U+FFFD for each maximal ill-formed subsequence, a
truncated one at the end included. Decoding is a machine reading one byte at a time, so the text of
a concatenation is the concatenation of the texts exactly when the cut is not inside a sequence
that the second part continues.
-/
import Mathlib.Data.List.Basic
import Mathlib.Tactic.Common
import Mathlib.Tactic.SplitIfs

namespace Text.Utf8

/-! ## The decoder -/

/-- Between characters, or inside a sequence: how many bytes are still needed, the range of the
next one, and the bits read so far. -/
inductive State
  | start
  | more (need lo hi acc : Nat)
  deriving DecidableEq, Repr

def replacement : Char := '\uFFFD'

/-- A byte between characters. -/
def first (b : Nat) : State × List Char :=
  if b < 0x80 then (.start, [Char.ofNat b])
  else if b < 0xC2 then (.start, [replacement])
  else if b < 0xE0 then (.more 1 0x80 0xBF (b - 0xC0), [])
  else if b = 0xE0 then (.more 2 0xA0 0xBF 0, [])
  else if b = 0xED then (.more 2 0x80 0x9F 0xD, [])
  else if b < 0xF0 then (.more 2 0x80 0xBF (b - 0xE0), [])
  else if b = 0xF0 then (.more 3 0x90 0xBF 0, [])
  else if b < 0xF4 then (.more 3 0x80 0xBF (b - 0xF0), [])
  else if b = 0xF4 then (.more 3 0x80 0x8F 4, [])
  else (.start, [replacement])

/-- A byte that continues a sequence. -/
def extend (need acc : Nat) : State × List Char :=
  if need ≤ 1 then (.start, [Char.ofNat acc]) else (.more (need - 1) 0x80 0xBF acc, [])

/-- One byte: the state after it and the characters it completes. -/
def step : State → Nat → State × List Char
  | .start, b => first b
  | .more need lo hi acc, b =>
    if lo ≤ b ∧ b ≤ hi then extend need (acc * 64 + (b - 0x80))
    -- the sequence ends unfinished; the byte is read again as a first one
    else ((first b).1, replacement :: (first b).2)

def run : State → List UInt8 → State × List Char
  | s, [] => (s, [])
  | s, b :: bs =>
    let r := run (step s b.toNat).1 bs
    (r.1, (step s b.toNat).2 ++ r.2)

/-- What the end of the input adds. -/
def flush : State → List Char
  | .start => []
  | .more .. => [replacement]

/-- The characters of `bs` read from a state, to its end. -/
def finish (s : State) (bs : List UInt8) : List Char := (run s bs).2 ++ flush (run s bs).1

/-- `bs.decode("utf-8", errors="replace")`. -/
def decode (bs : List UInt8) : List Char := finish .start bs

/-- Each chunk decoded on its own. -/
def decodeChunks (chunks : List (List UInt8)) : List Char := chunks.flatMap decode

/-! ## Cuts -/

theorem run_append : ∀ (s : State) (a b : List UInt8),
    run s (a ++ b) = ((run (run s a).1 b).1, (run s a).2 ++ (run (run s a).1 b).2)
  | s, [], b => by simp [run]
  | s, x :: a, b => by
    simp only [List.cons_append, run, run_append (step s x.toNat).1 a b, List.append_assoc]

theorem finish_cons (s : State) (b : UInt8) (bs : List UInt8) :
    finish s (b :: bs) = (step s b.toNat).2 ++ finish (step s b.toNat).1 bs := by
  simp [finish, run]

theorem finish_append (s : State) (a b : List UInt8) : finish s (a ++ b) = (run s a).2 ++ finish (run s a).1 b := by
  simp [finish, run_append]

/-- The byte continues the sequence the decoder is in. -/
def Continues : State → UInt8 → Prop
  | .start, _ => False
  | .more _ lo hi _, b => lo ≤ b.toNat ∧ b.toNat ≤ hi

instance (s : State) (b : UInt8) : Decidable (Continues s b) := by
  cases s <;> unfold Continues <;> infer_instance

/-- The cut between `a` and `b` is not inside a character. -/
def CleanCut (a b : List UInt8) : Prop := ∀ x ∈ b.head?, ¬ Continues (run .start a).1 x

/-- Ranges of continuation bytes. -/
def Ranged : State → Prop
  | .start => True
  | .more _ lo hi _ => 0x80 ≤ lo ∧ hi ≤ 0xBF

theorem ranged_first (b : Nat) : Ranged (first b).1 := by
  unfold first
  repeat' split
  all_goals simp [Ranged]

theorem ranged_extend (need acc : Nat) : Ranged (extend need acc).1 := by
  unfold extend
  split
  · trivial
  · exact ⟨Nat.le_refl _, Nat.le_refl _⟩

theorem ranged_step {s : State} (b : Nat) : Ranged (step s b).1 := by
  cases s with
  | start => exact ranged_first b
  | more need lo hi acc =>
    show Ranged (if lo ≤ b ∧ b ≤ hi then extend need (acc * 64 + (b - 0x80)) else _).1
    split
    · exact ranged_extend _ _
    · exact ranged_first b

theorem ranged_run {s : State} (h : Ranged s) : ∀ bs, Ranged (run s bs).1
  | [] => h
  | b :: bs => ranged_run (ranged_step b.toNat) bs

/-- A continuation byte read between characters is one replacement character. -/
theorem length_finish_continuation {b : UInt8} (h : 0x80 ≤ b.toNat) (h' : b.toNat ≤ 0xBF) (bs : List UInt8) :
    (finish .start (b :: bs)).length = 1 + (finish .start bs).length := by
  have hfirst : step .start b.toNat = (.start, [replacement]) := by
    show first b.toNat = _
    unfold first
    rw [if_neg (by omega), if_pos (by omega)]
  rw [finish_cons, hfirst, List.length_append, List.length_singleton]

/-- A byte that does not continue the sequence ends it: the rest reads as from the start. -/
theorem finish_of_not_continues {s : State} {bs : List UInt8} (h : ∀ x ∈ bs.head?, ¬ Continues s x) :
    finish s bs = flush s ++ finish .start bs := by
  cases s with
  | start => rfl
  | more need lo hi acc =>
    cases bs with
    | nil => rfl
    | cons b bs =>
      have hstep : step (.more need lo hi acc) b.toNat = ((first b.toNat).1, replacement :: (first b.toNat).2) :=
        if_neg (h b rfl)
      rw [finish_cons, finish_cons, hstep]
      rfl

/-- A byte that continues the sequence makes the whole shorter than its parts, provided reading on
from inside a sequence yields at most one more character. -/
theorem length_finish_lt_of {s : State} {b : UInt8} {bs : List UInt8} (hr : Ranged s) (hc : Continues s b)
    (hle : ∀ need acc, (finish (extend need acc).1 bs).length ≤ 1 + (finish .start bs).length) :
    (finish s (b :: bs)).length < (flush s).length + (finish .start (b :: bs)).length := by
  cases s with
  | start => exact hc.elim
  | more need lo hi acc =>
    obtain ⟨hlo, hhi⟩ := hc
    obtain ⟨hlo', hhi'⟩ := hr
    have hstep : step (.more need lo hi acc) b.toNat = extend need (acc * 64 + (b.toNat - 0x80)) := if_pos ⟨hlo, hhi⟩
    rw [length_finish_continuation (by omega) (by omega), finish_cons, hstep]
    have hrec := hle need (acc * 64 + (b.toNat - 0x80))
    unfold extend at hrec ⊢
    split
    · simp only [flush, List.length_append, List.length_singleton]; omega
    · rename_i hneed
      rw [if_neg hneed] at hrec
      dsimp only at hrec
      simp only [flush, List.nil_append, List.length_singleton]; omega

/-- Reading on from inside a sequence yields at most one character more than reading from the
start. -/
theorem length_finish_le : ∀ (bs : List UInt8) {s : State}, Ranged s →
    (finish s bs).length ≤ 1 + (finish .start bs).length
  | [], s, _ => by cases s <;> simp [finish, run, flush]
  | b :: bs, s, hr => by
    have hflush : (flush s).length ≤ 1 := by cases s <;> simp [flush]
    by_cases hc : Continues s b
    · have hlt := length_finish_lt_of hr hc fun need acc => length_finish_le bs (ranged_extend need acc)
      omega
    · rw [finish_of_not_continues (by intro x hx; cases hx; exact hc), List.length_append]
      omega

/-- Decoding a concatenation cut inside a character is shorter than decoding its parts. -/
theorem length_decode_append_lt {a b : List UInt8} (h : ¬ CleanCut a b) :
    (decode (a ++ b)).length < (decode a).length + (decode b).length := by
  have hr : Ranged (run .start a).1 := ranged_run (s := .start) trivial a
  unfold CleanCut at h
  push Not at h
  obtain ⟨x, hx, hc⟩ := h
  cases b with
  | nil => cases hx
  | cons y b =>
    cases hx
    have hlt := length_finish_lt_of hr hc fun need acc => length_finish_le b (ranged_extend need acc)
    unfold decode
    rw [finish_append]
    rw [List.length_append, show finish .start a = (run .start a).2 ++ flush (run .start a).1 from rfl,
      List.length_append]
    omega

theorem decode_append {a b : List UInt8} (h : CleanCut a b) : decode (a ++ b) = decode a ++ decode b := by
  unfold decode
  rw [finish_append, finish_of_not_continues h, ← List.append_assoc]
  rfl

theorem length_decode_append_le (a b : List UInt8) :
    (decode (a ++ b)).length ≤ (decode a).length + (decode b).length := by
  by_cases h : CleanCut a b
  · exact Nat.le_of_eq (by rw [decode_append h, List.length_append])
  · exact Nat.le_of_lt (length_decode_append_lt h)

/-- The bytes of an ASCII text. -/
theorem decode_ascii : ∀ {cs : List Char}, (∀ c ∈ cs, c.toNat < 128) → decode (cs.map fun c => UInt8.ofNat c.toNat) = cs
  | [], _ => rfl
  | c :: cs, h => by
    have hc := h c (List.mem_cons_self ..)
    have ih := decode_ascii fun c' hc' => h c' (List.mem_cons_of_mem _ hc')
    have hbyte : (UInt8.ofNat c.toNat).toNat = c.toNat := by
      rw [UInt8.toNat_ofNat']
      exact Nat.mod_eq_of_lt (by omega)
    rw [decode] at ih ⊢
    rw [List.map_cons, finish_cons, hbyte, step, first, if_pos hc, Char.ofNat_toNat, ih]
    rfl

/-! ## Chunks -/

/-- No cut of the chunk list is inside a character. -/
def CleanCuts : List (List UInt8) → Prop
  | [] => True
  | c :: cs => CleanCut c cs.flatten ∧ CleanCuts cs

theorem decodeChunks_cons (c : List UInt8) (cs : List (List UInt8)) :
    decodeChunks (c :: cs) = decode c ++ decodeChunks cs := rfl

theorem length_decode_flatten_le : ∀ cs : List (List UInt8), (decode cs.flatten).length ≤ (decodeChunks cs).length
  | [] => Nat.le_refl _
  | c :: cs => by
    have hcut := length_decode_append_le c cs.flatten
    have ih := length_decode_flatten_le cs
    rw [decodeChunks_cons, List.flatten_cons, List.length_append]
    omega

theorem decodeChunks_of_cleanCuts : ∀ {cs : List (List UInt8)}, CleanCuts cs → decodeChunks cs = decode cs.flatten
  | [], _ => rfl
  | c :: cs, ⟨hcut, hrest⟩ => by
    rw [decodeChunks_cons, List.flatten_cons, decode_append hcut, decodeChunks_of_cleanCuts hrest]

/-- No character is lost in the count exactly when no cut is inside one. -/
theorem cleanCuts_of_length : ∀ {cs : List (List UInt8)},
    (decodeChunks cs).length = (decode cs.flatten).length → CleanCuts cs
  | [], _ => trivial
  | c :: cs, h => by
    have hle := length_decode_flatten_le cs
    rw [decodeChunks_cons, List.flatten_cons, List.length_append] at h
    have hcut : CleanCut c cs.flatten := by
      by_contra hc
      have hlt := length_decode_append_lt hc
      omega
    rw [decode_append hcut, List.length_append] at h
    exact ⟨hcut, cleanCuts_of_length (by omega)⟩

/-- Decoding chunk by chunk gives the text of the whole exactly when no cut is inside a character. -/
theorem decodeChunks_eq_iff (cs : List (List UInt8)) : decodeChunks cs = decode cs.flatten ↔ CleanCuts cs :=
  ⟨fun h => cleanCuts_of_length (by rw [h]), decodeChunks_of_cleanCuts⟩

/-! ## The encoder -/

/-- `s.encode("utf-8")`. -/
def encode (cs : List Char) : List UInt8 := cs.flatMap String.utf8EncodeChar

theorem toNat_byte {n : Nat} (h : n < 256) : (UInt8.ofNat n).toNat = n := by
  rw [UInt8.toNat_ofNat']
  exact Nat.mod_eq_of_lt h

/-- A byte that continues the sequence. -/
theorem run_continue {need lo hi acc n : Nat} (hlo : lo ≤ n) (hhi : n ≤ hi) (hn : n < 256) (bs : List UInt8) :
    run (.more need lo hi acc) (UInt8.ofNat n :: bs) =
      ((run (extend need (acc * 64 + (n - 0x80))).1 bs).1,
        (extend need (acc * 64 + (n - 0x80))).2 ++ (run (extend need (acc * 64 + (n - 0x80))).1 bs).2) := by
  rw [run, toNat_byte hn, step, if_pos ⟨hlo, hhi⟩]

/-- The first byte of a sequence. -/
theorem run_first {n : Nat} (hn : n < 256) (bs : List UInt8) :
    run .start (UInt8.ofNat n :: bs) = ((run (first n).1 bs).1, (first n).2 ++ (run (first n).1 bs).2) := by
  rw [run, toNat_byte hn, step]

/-- The first byte of three, by what the second is. -/
theorem first_three {n b : Nat} (hn : 0xE0 ≤ n ∧ n ≤ 0xEF) (hb : 0x80 ≤ b ∧ b ≤ 0xBF) (hlow : n = 0xE0 → 0xA0 ≤ b)
    (hsurrogate : n = 0xED → b ≤ 0x9F) : ∃ lo hi, first n = (.more 2 lo hi (n - 0xE0), []) ∧ lo ≤ b ∧ b ≤ hi := by
  unfold first
  rw [if_neg (by omega), if_neg (by omega), if_neg (by omega)]
  split_ifs with h₁ h₂ h₃
  · exact ⟨0xA0, 0xBF, by rw [h₁], hlow h₁, hb.2⟩
  · exact ⟨0x80, 0x9F, by rw [h₂], hb.1, hsurrogate h₂⟩
  · exact ⟨0x80, 0xBF, rfl, hb⟩
  all_goals omega

/-- The first byte of four, by what the second is. -/
theorem first_four {n b : Nat} (hn : 0xF0 ≤ n ∧ n ≤ 0xF4) (hb : 0x80 ≤ b ∧ b ≤ 0xBF) (hlow : n = 0xF0 → 0x90 ≤ b)
    (hmax : n = 0xF4 → b ≤ 0x8F) : ∃ lo hi, first n = (.more 3 lo hi (n - 0xF0), []) ∧ lo ≤ b ∧ b ≤ hi := by
  unfold first
  rw [if_neg (by omega), if_neg (by omega), if_neg (by omega), if_neg (by omega), if_neg (by omega), if_neg (by omega)]
  split_ifs with h₁ h₂ h₃
  · exact ⟨0x90, 0xBF, by rw [h₁], hlow h₁, hb.2⟩
  · exact ⟨0x80, 0xBF, rfl, hb⟩
  · exact ⟨0x80, 0x8F, by rw [h₃], hb.1, hmax h₃⟩
  omega

/-- The bytes of a character read as that character. -/
theorem run_encodeChar (c : Char) : run .start (String.utf8EncodeChar c) = (.start, [c]) := by
  have hvalid := c.valid
  have hval : c.val.toNat = c.toNat := rfl
  have hread : Char.ofNat c.toNat = c := Char.ofNat_toNat c
  simp only [UInt32.isValidChar, Nat.isValidChar] at hvalid
  unfold String.utf8EncodeChar
  rw [hval] at hvalid ⊢
  generalize c.toNat = v at hvalid hread
  dsimp only
  split_ifs with h₁ h₂ h₃
  · rw [run_first (by omega), first, if_pos (by omega), hread]
    rfl
  · have hbits : (v / 64 % 0x20 + 0xc0 - 0xC0) * 64 + (v % 0x40 + 0x80 - 0x80) = v := by omega
    rw [run_first (by omega), first, if_neg (by omega), if_neg (by omega), if_pos (by omega)]
    dsimp only
    rw [run_continue (by omega) (by omega) (by omega), hbits, extend, if_pos (by omega), hread]
    rfl
  · have hbits : ((v / 4096 % 0x10 + 0xe0 - 0xE0) * 64 + (v / 64 % 0x40 + 0x80 - 0x80)) * 64 + (v % 0x40 + 0x80 - 0x80) = v := by
      omega
    obtain ⟨lo, hi, hfirst, hlo, hhi⟩ := first_three (n := v / 4096 % 0x10 + 0xe0) (b := v / 64 % 0x40 + 0x80)
      (by omega) (by omega) (by omega) (by omega)
    rw [run_first (by omega), hfirst]
    dsimp only
    rw [run_continue hlo hhi (by omega), extend, if_neg (by omega)]
    dsimp only
    rw [run_continue (by omega) (by omega) (by omega), hbits, extend, if_pos (by omega), hread]
    rfl
  · have hbits : (((v / 262144 % 0x08 + 0xf0 - 0xF0) * 64 + (v / 4096 % 0x40 + 0x80 - 0x80)) * 64 +
        (v / 64 % 0x40 + 0x80 - 0x80)) * 64 + (v % 0x40 + 0x80 - 0x80) = v := by
      omega
    obtain ⟨lo, hi, hfirst, hlo, hhi⟩ := first_four (n := v / 262144 % 0x08 + 0xf0) (b := v / 4096 % 0x40 + 0x80)
      (by omega) (by omega) (by omega) (by omega)
    rw [run_first (by omega), hfirst]
    dsimp only
    rw [run_continue hlo hhi (by omega), extend, if_neg (by omega)]
    dsimp only
    rw [run_continue (by omega) (by omega) (by omega), extend, if_neg (by omega)]
    dsimp only
    rw [run_continue (by omega) (by omega) (by omega), hbits, extend, if_pos (by omega), hread]
    rfl

theorem run_encode : ∀ cs : List Char, run .start (encode cs) = (.start, cs)
  | [] => rfl
  | c :: cs => by
    rw [encode, List.flatMap_cons, run_append, run_encodeChar]
    dsimp only
    rw [← encode, run_encode cs]
    rfl

/-- What is encoded is decoded. -/
theorem decode_encode (cs : List Char) : decode (encode cs) = cs := by
  rw [decode, finish, run_encode]
  exact List.append_nil cs

theorem encode_append (a b : List Char) : encode (a ++ b) = encode a ++ encode b := List.flatMap_append

/-- A cut between two texts is clean. -/
theorem cleanCut_encode (cs : List Char) (b : List UInt8) : CleanCut (encode cs) b := by
  intro x _
  rw [run_encode]
  exact id

theorem encodeChar_ascii {c : Char} (h : c.toNat < 128) : String.utf8EncodeChar c = [UInt8.ofNat c.toNat] :=
  if_pos (Nat.le_of_lt_succ h)

theorem encode_ascii : ∀ {cs : List Char}, (∀ c ∈ cs, c.toNat < 128) → encode cs = cs.map fun c => UInt8.ofNat c.toNat
  | [], _ => rfl
  | c :: cs, h => by
    rw [List.forall_mem_cons] at h
    rw [encode, List.flatMap_cons, encodeChar_ascii h.1, ← encode, encode_ascii h.2]
    rfl

/-- No cut of ASCII bytes is inside a character. -/
theorem cleanCuts_of_ascii : ∀ {cs : List (List UInt8)}, (∀ b ∈ cs.flatten, b.toNat < 128) → CleanCuts cs
  | [], _ => trivial
  | c :: cs, h => by
    have hrun : ∀ {bs : List UInt8}, (∀ b ∈ bs, b.toNat < 128) → (run .start bs).1 = .start := by
      intro bs hbs
      induction bs with
      | nil => rfl
      | cons b bs ih =>
        rw [List.forall_mem_cons] at hbs
        have hb : (first b.toNat).1 = .start := by rw [first, if_pos hbs.1]
        rw [run, step, hb]
        exact ih hbs.2
    refine ⟨fun x _ => ?_, cleanCuts_of_ascii fun b hb => h b (List.mem_append_right _ hb)⟩
    rw [hrun fun b hb => h b (List.mem_append_left _ hb)]
    exact id

end Text.Utf8
