/-
More of what Python does with a text: `partition`, `splitlines`, `isascii`, and `strip` of given
characters.
-/
import DioServe.Py.Value
import DioServe.Text.Lines

namespace Py

/-! ## `partition` -/

/-- The texts before and after the first `sep`; nothing is after one that is not there. -/
def partition (sep : Char) : List Char → List Char × List Char
  | [] => ([], [])
  | c :: cs => if c = sep then ([], cs) else (c :: (partition sep cs).1, (partition sep cs).2)

/-! ## `splitlines` -/

/-- A character that ends a line: the newline, the carriage return, and the other separators Python knows. -/
def isLineBreak (c : Char) : Bool := c.toNat ∈ [10, 11, 12, 13, 28, 29, 30, 133, 8232, 8233]

/-- `s.splitlines()`. -/
def splitlines : List Char → List (List Char)
  | [] => []
  | '\r' :: '\n' :: cs => [] :: splitlines cs
  | c :: cs =>
    if isLineBreak c then [] :: splitlines cs
    else match splitlines cs with
      | [] => [[c]]
      | l :: ls => (c :: l) :: ls

/-- A character that ends no line joins the line after it. -/
theorem splitlines_cons {c : Char} (hc : isLineBreak c = false) (cs : List Char) :
    splitlines (c :: cs) = match splitlines cs with
      | [] => [[c]]
      | l :: ls => (c :: l) :: ls := by
  have hr : c ≠ '\r' := by rintro rfl; cases hc
  rw [splitlines, if_neg (by rw [hc]; exact Bool.false_ne_true)]
  intro cs' h; exact absurd h hr

/-- A line break that is not the first half of `\r\n` ends a line. -/
theorem splitlines_break {c : Char} (hc : isLineBreak c = true) {cs : List Char}
    (hne : c = '\r' → cs.head? ≠ some '\n') :
    splitlines (c :: cs) = [] :: splitlines cs := by
  rw [splitlines, if_pos hc]
  rintro cs' h rfl
  exact hne h rfl

theorem splitlines_newline_ne_nil (a : List Char) : splitlines (a ++ ['\n']) ≠ [] := by
  cases a with
  | nil => rw [List.nil_append, splitlines_break rfl (by decide)]; exact List.cons_ne_nil _ _
  | cons c a =>
    cases hc : isLineBreak c with
    | true =>
      by_cases hcr : c = '\r' ∧ (a ++ ['\n']).head? = some '\n'
      · obtain ⟨rfl, hhead⟩ := hcr
        obtain ⟨ds, hds⟩ := List.head?_eq_some_iff.1 hhead
        rw [List.cons_append, hds, splitlines]
        exact List.cons_ne_nil _ _
      · rw [List.cons_append, splitlines_break hc fun h1 h2 => hcr ⟨h1, h2⟩]
        exact List.cons_ne_nil _ _
    | false =>
      rw [List.cons_append, splitlines_cons hc]
      split
      · exact List.cons_ne_nil _ _
      · exact List.cons_ne_nil _ _

/-- What follows a newline is split on its own. -/
theorem splitlines_newline (a b : List Char) :
    splitlines (a ++ '\n' :: b) = splitlines (a ++ ['\n']) ++ splitlines b := by
  have hnewline : ∀ cs : List Char, splitlines ('\n' :: cs) = [] :: splitlines cs := fun cs =>
    splitlines_break rfl (fun h => absurd h (by decide))
  -- the pair `\r\n` is one line break, so the induction goes by two characters there
  induction a using splitlines.induct with
  | case1 => rw [List.nil_append, List.nil_append, hnewline, hnewline]; rfl
  | case2 cs ih => simp only [List.cons_append, splitlines, ih]
  | case3 c cs hne hbreak ih =>
    cases cs with
    | nil =>
      by_cases hc : c = '\r'
      · subst hc; rfl
      · have hcons : ∀ cs : List Char, splitlines (c :: '\n' :: cs) = [] :: splitlines ('\n' :: cs) := fun cs =>
          splitlines_break hbreak fun h => absurd h hc
        rw [List.cons_append, List.nil_append, List.cons_append, List.nil_append, hcons, hcons, hnewline, hnewline]
        rfl
    | cons d ds =>
      have hcons : ∀ rest, splitlines (c :: d :: (ds ++ rest)) = [] :: splitlines (d :: (ds ++ rest)) := fun rest =>
        splitlines_break hbreak fun hc hd => hne ds hc (by rw [Option.some.inj hd])
      simp only [List.cons_append] at ih ⊢
      rw [hcons, hcons, ih]; rfl
  | case4 c cs _ hbreak _ ih | case5 c cs _ hbreak _ _ _ ih =>
    have hc : isLineBreak c = false := by simpa using hbreak
    obtain ⟨l, ls, hl⟩ := List.exists_cons_of_ne_nil (splitlines_newline_ne_nil cs)
    rw [List.cons_append, List.cons_append, splitlines_cons hc, splitlines_cons hc, ih, hl]
    rfl

/-- A line without line breaks is one line. -/
theorem splitlines_line {l : List Char} (h : ∀ c ∈ l, isLineBreak c = false) : splitlines (l ++ ['\n']) = [l] := by
  induction l with
  | nil => rfl
  | cons c l ih =>
    rw [List.forall_mem_cons] at h
    rw [List.cons_append, splitlines_cons h.1, ih h.2]

/-! ## `strip` -/

/-- `s.strip(chars)`. -/
def stripSet (chars cs : List Char) : List Char :=
  ((cs.dropWhile (· ∈ chars)).reverse.dropWhile (· ∈ chars)).reverse

/-- A text that starts with no space starts the same when stripped. -/
theorem head_stripChars {U : Unicode} {c : Char} (hc : U.isSpace c = false) (cs : List Char) :
    (stripChars U (c :: cs)).head? = some c := by
  have hkeep : ∀ ds, (c :: ds).dropWhile U.isSpace = c :: ds := fun ds => by
    rw [List.dropWhile_cons, if_neg (by rw [hc]; exact Bool.false_ne_true)]
  unfold stripChars
  rw [hkeep, List.reverse_cons, List.dropWhile_append]
  split
  · rw [hkeep]; rfl
  · rw [List.reverse_append]; rfl

/-! ## Digits -/

/-- The tables know the ASCII digits, and no others among the ASCII characters. -/
def Unicode.DigitsOnAscii (U : Unicode) : Prop :=
  ∀ c : Char, c.toNat < 128 → U.digitVal c = if c.isDigit then some (c.toNat - '0'.toNat) else none

theorem digitsOnAscii_ascii : Unicode.ascii.DigitsOnAscii := by
  intro c _
  have hdigit : c.isDigit = decide ('0' ≤ c ∧ c ≤ '9') := by
    rw [Bool.eq_iff_iff, Char.isDigit, Bool.and_eq_true, decide_eq_true_eq, decide_eq_true_eq, decide_eq_true_eq]
    exact Iff.rfl
  unfold Unicode.ascii
  rw [hdigit]
  dsimp only
  simp only [decide_eq_true_eq]

/-- A run of ASCII digits, read up to what comes after it. -/
theorem readDigits_run {U : Unicode} (hd : U.DigitsOnAscii) {rest : List Char}
    (hrest : ∀ c ∈ rest.head?, c.toNat < 128 ∧ c.isDigit = false ∧ c ≠ '_') :
    ∀ (ds : List Char) (acc n : Nat), (∀ c ∈ ds, c.isDigit = true) → readDigits U (ds ++ rest) acc n =
      if n + ds.length = 0 then none else some (Nat.ofDigitChars 10 ds acc, n + ds.length, rest)
  | [], acc, n, _ => by
    rw [List.nil_append, List.length_nil, Nat.add_zero, Nat.ofDigitChars_nil]
    cases rest with
    | nil => rfl
    | cons c cs =>
      obtain ⟨hascii, hno, hbar⟩ := hrest c rfl
      have hval : U.digitVal c = none := by rw [hd c hascii, hno]; rfl
      unfold readDigits
      simp only [hval]
      split
      · rfl
      · split
        · rename_i c' cs' _; exact absurd rfl hbar
        · rfl
  | d :: ds, acc, n, hds => by
    obtain ⟨hdig, hds⟩ := List.forall_mem_cons.1 hds
    have hascii : d.toNat < 128 := by
      simp only [Char.isDigit, Bool.and_eq_true, decide_eq_true_eq, ge_iff_le, UInt32.le_iff_toNat_le] at hdig
      have hle : d.val.toNat ≤ 57 := hdig.2
      show d.val.toNat < 128
      omega
    have hval : U.digitVal d = some (d.toNat - '0'.toNat) := by rw [hd d hascii, hdig]; rfl
    rw [List.cons_append]
    unfold readDigits
    simp only [hval]
    rw [readDigits_run hd hrest ds _ _ hds, Nat.ofDigitChars_cons, List.length_cons, if_neg (by omega),
      if_neg (by omega),
      Nat.mul_comm acc 10, Nat.add_assoc n 1, Nat.add_comm 1]

/-! ## `isascii` -/

/-- `s.isascii()`. -/
def IsAscii (s : String) : Prop := ∀ c ∈ s.toList, c.toNat < 128

instance (s : String) : Decidable (IsAscii s) := inferInstanceAs (Decidable (∀ c ∈ s.toList, c.toNat < 128))

end Py
