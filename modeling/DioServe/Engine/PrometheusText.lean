/-
Reading an engine's `/metrics` (`engine_metrics.py`): the regular expression of a sample line and the
parser that keeps the last value of each name.
-/
import DioServe.Py.Text
import DioServe.Text.Exposition

namespace Dio.Engine

open Data Py Text.Exposition

/-! ## The regular expression -/

/-- `(?:[eE][-+]?[0-9]+)?`. -/
def exponentRe : List Char → Bool
  | [] => true
  | c :: cs => (c = 'e' || c = 'E') && (readSign cs).2 ≠ [] && (readSign cs).2.all Char.isDigit

/-- `[-+]?[0-9]*\.?[0-9]+(?:[eE][-+]?[0-9]+)?`. After a point digits must follow; digits without a point
leave at least one to the second run. -/
def valueRe (cs : List Char) : Bool :=
  let cs := (readSign cs).2
  match cs.dropWhile Char.isDigit with
  | '.' :: ds => ds.takeWhile Char.isDigit ≠ [] && exponentRe (ds.dropWhile Char.isDigit)
  | rest => cs.takeWhile Char.isDigit ≠ [] && exponentRe rest

/-- What follows `(?:\{[^}]*\})?`; an open brace that is not closed leaves nothing that could match. -/
def afterLabels : List Char → Option (List Char)
  | '\x7b' :: cs =>
    match cs.dropWhile (· ≠ '\x7d') with
    | _ :: rest => some rest
    | [] => none
  | cs => some cs

section Parser

variable (U : Unicode)

/-- Without the spaces at its end. -/
def trimRight (cs : List Char) : List Char := (cs.reverse.dropWhile U.isSpace).reverse

/-- `_SAMPLE_RE.match`: the two groups. No piece can give back characters the next one could take. -/
def sampleMatch (cs : List Char) : Option (List Char × List Char) :=
  if (cs.head?.map nameStart).getD false then do
    let rest ← afterLabels (cs.dropWhile nameChar)
    let value := trimRight U (rest.dropWhile U.isSpace)
    if (rest.head?.map U.isSpace).getD false ∧ valueRe value then some (cs.takeWhile nameChar, value) else none
  else none

/-- The sample of a line, unless the line is empty, a comment or does not match. -/
def lineSample (line : List Char) : Option (List Char × List Char) :=
  let line := stripChars U line
  if line = [] ∨ line.head? = some '#' then none else sampleMatch U line

def parseLines : List (List Char) → Dict String PyFloat → Except PyErr (Dict String PyFloat)
  | [], out => .ok out
  | line :: lines, out =>
    match lineSample U line with
    | none => parseLines lines out
    | some (name, value) => do
      parseLines lines (Dict.set out (String.ofList name) (← floatOfStr U (String.ofList value)))

/-- `parse_prometheus_text`. -/
def parsePrometheusText (text : String) : Except PyErr (Dict String PyFloat) := parseLines U (splitlines text.toList) []

end Parser

/-! ## Values -/

/-- The float a decimal is read as. -/
def valueOf (d : Decimal) : PyFloat := ofDecimal d.negative d.mantissa d.scale

/-- The part of a decimal after its sign. -/
def body (d : Decimal) : List Char := d.whole ++ (Decimal.fractionText d.fraction ++ Decimal.exponentText d.exponent)

theorem takeWhile_run {p : Char → Bool} {ds rest : List Char} (hds : ∀ c ∈ ds, p c = true)
    (hrest : ∀ c ∈ rest.head?, p c = false) :
    (ds ++ rest).takeWhile p = ds ∧ (ds ++ rest).dropWhile p = rest := by
  constructor
  · rw [List.takeWhile_append_of_pos hds]
    cases rest with
    | nil => simp
    | cons c cs => simp [hrest c rfl]
  · rw [List.dropWhile_append_of_pos hds]
    exact dropWhile_of_head hrest

theorem readSign_sign {sign rest : List Char} (h : IsSign sign) (hrest : ∀ c ∈ rest.head?, c ≠ '+' ∧ c ≠ '-') :
    readSign (sign ++ rest) = (decide (sign = ['-']), rest) := by
  rcases h with rfl | rfl | rfl
  · cases rest with
    | nil => rfl
    | cons c cs =>
      obtain ⟨hplus, hminus⟩ := hrest c rfl
      rw [List.nil_append]
      unfold readSign
      split
      · rename_i heq; cases heq; exact absurd rfl hminus
      · rename_i heq; cases heq; exact absurd rfl hplus
      · rfl
  · rfl
  · rfl

/-- After a run of digits comes a character that is none. -/
theorem head_exponentText (d : Decimal) : ∀ c ∈ (Decimal.exponentText d.exponent).head?, c = 'e' ∨ c = 'E' := by
  intro c hc
  cases he : d.exponent with
  | none => rw [he] at hc; cases hc
  | some e =>
    rw [he] at hc
    cases hc
    exact (d.exponent_ok e he).1

theorem head_afterWhole (d : Decimal) :
    ∀ c ∈ (Decimal.fractionText d.fraction ++ Decimal.exponentText d.exponent).head?, c = '.' ∨ c = 'e' ∨ c = 'E' := by
  intro c hc
  cases hf : d.fraction with
  | none => rw [hf] at hc; exact .inr (head_exponentText d c hc)
  | some ds => rw [hf] at hc; cases hc; exact .inl rfl

theorem head_body (d : Decimal) : ∀ c ∈ (body d).head?, c.isDigit = true ∨ c = '.' := by
  intro c hc
  unfold body at hc
  cases hw : d.whole with
  | cons w ws =>
    rw [hw] at hc
    cases hc
    exact .inl (d.whole_digits _ (by rw [hw]; exact List.mem_cons_self ..))
  | nil =>
    obtain ⟨ds, hf, -⟩ := d.has_digit.resolve_left fun h => h hw
    rw [hw, hf] at hc
    cases hc
    exact .inr rfl

theorem readSign_text (d : Decimal) : readSign d.text = (d.negative, body d) :=
  readSign_sign d.isSign fun c hc => by
    rcases head_body d c hc with h | h
    · constructor <;> (rintro rfl; cases h)
    · rw [h]; decide

theorem exponentRe_text (d : Decimal) : exponentRe (Decimal.exponentText d.exponent) = true := by
  cases he : d.exponent with
  | none => rfl
  | some e =>
    obtain ⟨letter, sign, ds⟩ := e
    obtain ⟨hletter, hsign, hne, hds⟩ := d.exponent_ok _ he
    have hread : readSign (sign ++ ds) = (decide (sign = ['-']), ds) := readSign_sign hsign fun c hc => by
      have hdig := hds c (List.mem_of_mem_head? hc)
      constructor <;> (rintro rfl; cases hdig)
    have hall : ds.all Char.isDigit = true := List.all_eq_true.2 hds
    show exponentRe (letter :: (sign ++ ds)) = true
    unfold exponentRe
    dsimp only at hletter hne ⊢
    rw [hread, hall]
    rcases hletter with rfl | rfl <;> simp [hne]

/-- A decimal is matched unless its point is bare. -/
theorem valueRe_text (d : Decimal) : valueRe d.text = !d.barePoint := by
  have hdigit : ∀ c : Char, c = '.' ∨ c = 'e' ∨ c = 'E' → c.isDigit = false := by
    rintro c (rfl | rfl | rfl) <;> rfl
  obtain ⟨htake, hdrop⟩ :=
    takeWhile_run (p := Char.isDigit) d.whole_digits fun c hc => hdigit c (head_afterWhole d c hc)
  have hexp := exponentRe_text d
  unfold valueRe
  rw [readSign_text]
  unfold body
  dsimp only
  rw [htake, hdrop]
  cases hf : d.fraction with
  | some ds =>
    obtain ⟨htake', hdrop'⟩ := takeWhile_run (p := Char.isDigit) (d.fraction_digits ds hf)
      fun c hc => hdigit c (.inr (head_exponentText d c hc))
    show (decide ((ds ++ Decimal.exponentText d.exponent).takeWhile Char.isDigit ≠ []) &&
      exponentRe ((ds ++ Decimal.exponentText d.exponent).dropWhile Char.isDigit)) = _
    rw [htake', hdrop', hexp, Bool.and_true, Decimal.barePoint, hf]
    simp
  | none =>
    have hwhole : d.whole ≠ [] := by
      rcases d.has_digit with h | ⟨ds, h, -⟩
      · exact h
      · rw [hf] at h; cases h
    have hbare : d.barePoint = false := by simp [Decimal.barePoint, hf]
    rw [hbare]
    show (match Decimal.exponentText d.exponent with
      | '.' :: ds => ds.takeWhile Char.isDigit ≠ [] && exponentRe (ds.dropWhile Char.isDigit)
      | rest => d.whole ≠ [] && exponentRe rest) = true
    split
    · rename_i ds heq
      have hhead := head_exponentText d '.' (by rw [heq]; rfl)
      exact absurd hhead (by decide)
    · simp [hwhole, hexp]

theorem readSign_eq (cs : List Char) : ∃ sign, IsSign sign ∧ cs = sign ++ (readSign cs).2 := by
  unfold readSign
  split
  · exact ⟨['-'], .inr (.inr rfl), rfl⟩
  · exact ⟨['+'], .inr (.inl rfl), rfl⟩
  · exact ⟨[], .inl rfl, rfl⟩

theorem exists_exponent {cs : List Char} (h : exponentRe cs = true) : ∃ e : Option (Char × List Char × List Char),
    cs = Decimal.exponentText e ∧
      ∀ x ∈ e, (x.1 = 'e' ∨ x.1 = 'E') ∧ IsSign x.2.1 ∧ x.2.2 ≠ [] ∧ ∀ c ∈ x.2.2, c.isDigit = true := by
  cases cs with
  | nil => exact ⟨none, rfl, by rintro x ⟨⟩⟩
  | cons c cs =>
    simp only [exponentRe, Bool.and_eq_true, Bool.or_eq_true, decide_eq_true_eq, List.all_eq_true] at h
    obtain ⟨⟨hletter, hne⟩, hds⟩ := h
    obtain ⟨sign, hsign, heq⟩ := readSign_eq cs
    refine ⟨some (c, sign, (readSign cs).2), congrArg (c :: ·) heq, ?_⟩
    rintro x ⟨⟩
    exact ⟨hletter, hsign, hne, hds⟩

/-- What is matched as a value is a decimal. -/
theorem exists_decimal {cs : List Char} (h : valueRe cs = true) : ∃ d : Decimal, d.text = cs := by
  obtain ⟨sign, hsign, heq⟩ := readSign_eq cs
  unfold valueRe at h
  dsimp only at h
  generalize (readSign cs).2 = rest at heq h
  have hsplit := List.takeWhile_append_dropWhile (p := Char.isDigit) (l := rest)
  have hwhole : ∀ c ∈ rest.takeWhile Char.isDigit, c.isDigit = true := fun c hc =>
    List.all_eq_true.1 List.all_takeWhile c hc
  split at h
  · rename_i ds hdrop
    rw [Bool.and_eq_true, decide_eq_true_eq] at h
    obtain ⟨e, he, hok⟩ := exists_exponent h.2
    have hsplit' := List.takeWhile_append_dropWhile (p := Char.isDigit) (l := ds)
    refine ⟨⟨sign, rest.takeWhile Char.isDigit, some (ds.takeWhile Char.isDigit), e, hsign, hwhole, ?_, ?_, hok⟩, ?_⟩
    · rintro _ ⟨⟩ c hc; exact List.all_eq_true.1 List.all_takeWhile c hc
    · exact .inr ⟨_, rfl, h.1⟩
    · show sign ++ (rest.takeWhile Char.isDigit ++ ('.' :: ds.takeWhile Char.isDigit ++ Decimal.exponentText e)) = cs
      rw [← he, List.cons_append, hsplit', ← hdrop, hsplit, heq]
  · rw [Bool.and_eq_true, decide_eq_true_eq] at h
    obtain ⟨e, he, hok⟩ := exists_exponent h.2
    refine ⟨⟨sign, rest.takeWhile Char.isDigit, none, e, hsign, hwhole, by rintro _ ⟨⟩, .inl h.1, hok⟩, ?_⟩
    show sign ++ (rest.takeWhile Char.isDigit ++ ([] ++ Decimal.exponentText e)) = cs
    rw [List.nil_append, ← he, hsplit, heq]

section Read

variable {U : Unicode}

/-- A printing ASCII character is no space. -/
theorem ascii_of_range {c : Char} (hlow : 32 < c.val.toNat) (hhigh : c.val.toNat < 128) :
    c.toNat < 128 ∧ Unicode.ascii.isSpace c = false := by
  refine ⟨hhigh, ?_⟩
  simp only [Unicode.ascii, UInt32.le_iff_toNat_le, decide_eq_false_iff_not, not_or, not_and]
  refine ⟨?_, ?_, ?_⟩
  · intro heq
    have h32 : c.val.toNat = 32 := by rw [heq]; rfl
    omega
  · intro _ hle
    have h13 : c.val.toNat ≤ 13 := hle
    omega
  · intro _ hle
    have h31 : c.val.toNat ≤ 31 := hle
    omega

/-- A character of a decimal is an ASCII character and no space. -/
theorem ascii_of_isChar {c : Char} (h : Decimal.isChar c = true) : c.toNat < 128 ∧ Unicode.ascii.isSpace c = false := by
  simp only [Decimal.isChar, Bool.or_eq_true, decide_eq_true_eq, Char.isDigit, Bool.and_eq_true, ge_iff_le,
    UInt32.le_iff_toNat_le] at h
  rcases h with ((((h | rfl) | rfl) | rfl) | rfl) | rfl
  · have h1 : 48 ≤ c.val.toNat := h.1
    have h2 : c.val.toNat ≤ 57 := h.2
    exact ascii_of_range (by omega) (by omega)
  all_goals decide

theorem not_space_of_isChar (hU : U.SpacesOnAscii) {c : Char} (h : Decimal.isChar c = true) : U.isSpace c = false :=
  (hU c (ascii_of_isChar h).1).trans (ascii_of_isChar h).2

/-- What follows a run of digits ends it. -/
theorem ends_run {rest : List Char} (h : ∀ c ∈ rest.head?, c = '.' ∨ c = 'e' ∨ c = 'E') :
    ∀ c ∈ rest.head?, c.toNat < 128 ∧ c.isDigit = false ∧ c ≠ '_' := by
  intro c hc
  rcases h c hc with rfl | rfl | rfl <;> decide

theorem readFraction_text (hd : U.DigitsOnAscii) (d : Decimal) (m : Nat) :
    readFraction U m (Decimal.fractionText d.fraction ++ Decimal.exponentText d.exponent) =
      (Nat.ofDigitChars 10 (d.fraction.getD []) m, (d.fraction.getD []).length, Decimal.exponentText d.exponent) := by
  have hends := ends_run fun c hc => .inr (head_exponentText d c hc)
  cases hf : d.fraction with
  | none =>
    show readFraction U m (Decimal.exponentText d.exponent) = _
    unfold readFraction
    split
    · rename_i cs heq
      have hhead := head_exponentText d '.' (by rw [heq]; rfl)
      exact absurd hhead (by decide)
    · rfl
  | some ds =>
    show readFraction U m ('.' :: (ds ++ Decimal.exponentText d.exponent)) = _
    rw [readFraction, readDigits_run hd hends ds m 0 (d.fraction_digits ds hf)]
    cases ds with
    | nil => rfl
    | cons c cs => rw [if_neg (by rw [List.length_cons]; omega), Nat.zero_add]; rfl

theorem readExponent_text (hd : U.DigitsOnAscii) (d : Decimal) : readExponent U (Decimal.exponentText d.exponent) =
    (d.scale + (d.fraction.getD []).length, []) := by
  unfold Decimal.scale
  rw [Int.sub_add_cancel]
  cases he : d.exponent with
  | none => rfl
  | some e =>
    obtain ⟨letter, sign, ds⟩ := e
    obtain ⟨hletter, hsign, hne, hds⟩ := d.exponent_ok _ he
    dsimp only at hletter hsign hne hds
    have hread : readSign (sign ++ ds) = (decide (sign = ['-']), ds) := readSign_sign hsign fun c hc => by
      have hdig := hds c (List.mem_of_mem_head? hc)
      constructor <;> (rintro rfl; cases hdig)
    have hrun : readDigits U (ds ++ []) 0 0 = _ := readDigits_run hd (by rintro c ⟨⟩) ds 0 0 hds
    have hlen : ds.length ≠ 0 := fun h => hne (List.length_eq_zero_iff.1 h)
    rw [List.append_nil, Nat.zero_add, if_neg hlen] at hrun
    show readExponent U (letter :: (sign ++ ds)) = _
    unfold readExponent
    dsimp only
    rw [if_pos hletter, hread, hrun]
    simp only [decide_eq_true_eq]

/-- No decimal reads `inf` or `nan`. -/
theorem body_ne_word (d : Decimal) {w : String} (hw : w = "inf" ∨ w = "infinity" ∨ w = "nan") :
    String.ofList ((body d).map Char.toLower) ≠ w := by
  intro h
  have hhead : ((body d).map Char.toLower).head? = w.toList.head? := by rw [← h, String.toList_ofList]
  have hfirst : w.toList.head? = some 'i' ∨ w.toList.head? = some 'n' := by
    rcases hw with rfl | rfl | rfl <;> decide
  rw [List.head?_map] at hhead
  cases hb : (body d).head? with
  | none =>
    rw [hb] at hhead
    rcases hfirst with hi | hn
    · rw [hi] at hhead; cases hhead
    · rw [hn] at hhead; cases hhead
  | some c =>
    have hlower : c.toLower = c := by
      rcases head_body d c hb with hc | rfl
      · unfold Char.toLower
        simp only [Char.isDigit, Bool.and_eq_true, decide_eq_true_eq, ge_iff_le, UInt32.le_iff_toNat_le] at hc
        split
        · rename_i hupper
          have h1 : c.val.toNat ≤ 57 := hc.2
          have h2 : 65 ≤ c.val.toNat := hupper.1
          omega
        · rfl
      · rfl
    rw [hb, Option.map_some, hlower] at hhead
    rcases hfirst with hi | hn
    · rw [hi] at hhead
      cases hhead
      exact absurd (head_body d _ hb) (by decide)
    · rw [hn] at hhead
      cases hhead
      exact absurd (head_body d _ hb) (by decide)

/-- The text of a decimal is read as its value. -/
theorem floatOfStr_text (hU : U.SpacesOnAscii) (hd : U.DigitsOnAscii) (d : Decimal) :
    floatOfStr U (String.ofList d.text) = .ok (valueOf d) := by
  have hspace : ∀ c ∈ d.text, U.isSpace c = false := fun c hc => not_space_of_isChar hU (d.isChar_of_mem c hc)
  have hstrip : stripChars U d.text = d.text :=
    stripChars_self U (fun c hc => hspace c (List.mem_of_mem_head? hc)) fun c hc => hspace c (List.mem_of_getLast? hc)
  have hrun := readDigits_run hd (ends_run (head_afterWhole d)) d.whole 0 0 d.whole_digits
  rw [Nat.zero_add] at hrun
  have hsome : d.whole.length + (d.fraction.getD []).length ≠ 0 := by
    rcases d.has_digit with h | ⟨ds, hf, h⟩
    · have hlen := List.length_pos_iff.2 h
      omega
    · have hlen := List.length_pos_iff.2 h
      rw [hf, Option.getD_some]
      omega
  unfold floatOfStr
  rw [String.toList_ofList, hstrip, readSign_text]
  dsimp only
  rw [if_neg (not_or.2 ⟨body_ne_word d (.inl rfl), body_ne_word d (.inr (.inl rfl))⟩),
    if_neg (body_ne_word d (.inr (.inr rfl)))]
  have hclose : (if d.whole.length + (d.fraction.getD []).length = 0 ∨ ([] : List Char) ≠ [] then .error .valueError
      else .ok (ofDecimal d.negative (Nat.ofDigitChars 10 (d.fraction.getD []) (Nat.ofDigitChars 10 d.whole 0))
        (d.scale + (d.fraction.getD []).length - (d.fraction.getD []).length)) : Except PyErr PyFloat) =
          .ok (valueOf d) := by
    rw [if_neg (by rintro (h | h); exacts [hsome h, h rfl]), Int.add_sub_cancel, ← Nat.ofDigitChars_append]
    rfl
  by_cases hw : d.whole = []
  · have hbody : body d = Decimal.fractionText d.fraction ++ Decimal.exponentText d.exponent := by
      unfold body; rw [hw]; rfl
    rw [hw] at hrun hclose
    rw [List.length_nil, if_pos rfl, List.nil_append, ← hbody] at hrun
    simp only [hrun]
    rw [hbody, readFraction_text hd, readExponent_text hd]
    exact hclose
  · rw [if_neg fun h => hw (List.length_eq_zero_iff.1 h)] at hrun
    unfold body
    simp only [hrun]
    rw [readFraction_text hd, readExponent_text hd]
    exact hclose

/-! ## Sample lines -/

/-- A sample line the expression takes: no timestamp, no closing brace in a label value, no bare point. -/
def plain (s : Sample) : Bool := s.timestamp.isNone && unbraced s.labels && !s.value.barePoint

/-- A gap is spaces. -/
theorem isSpace_of_gap (hU : U.SpacesOnAscii) {cs : List Char} (h : IsGap cs) : ∀ c ∈ cs, U.isSpace c = true := by
  intro c hc
  rcases h.2 c hc with rfl | rfl
  · rw [hU _ (by decide)]; rfl
  · rw [hU _ (by decide)]; rfl

/-- What starts with a gap starts with a blank or a tab. -/
theorem head_of_gap {gap : List Char} (h : IsGap gap) (rest : List Char) : ∃ c cs, gap ++ rest = c :: cs ∧
    (c = ' ' ∨ c = '\t') := by
  obtain ⟨c, cs, rfl⟩ := List.exists_cons_of_ne_nil h.1
  exact ⟨c, cs ++ rest, rfl, h.2 c (List.mem_cons_self ..)⟩

/-- What is no space survives the trimming. -/
theorem mem_trim {cs : List Char} {c : Char} (hc : c ∈ cs) (hs : U.isSpace c = false) :
    c ∈ trimRight U (cs.dropWhile U.isSpace) := by
  have hkeep : ∀ ds : List Char, c ∈ ds → c ∈ ds.dropWhile U.isSpace := by
    intro ds hds
    rw [← List.takeWhile_append_dropWhile (p := U.isSpace) (l := ds), List.mem_append] at hds
    refine hds.resolve_left fun htake => ?_
    rw [List.all_eq_true.1 List.all_takeWhile c htake] at hs
    cases hs
  unfold trimRight
  rw [List.mem_reverse]
  exact hkeep _ (List.mem_reverse.2 (hkeep _ hc))

/-- What a value cannot have in it keeps a text from being one. -/
theorem valueRe_of_mem {cs : List Char} {c : Char} (hc : c ∈ cs) (hchar : Decimal.isChar c = false) :
    valueRe cs = false := by
  cases hv : valueRe cs with
  | false => rfl
  | true =>
    obtain ⟨d, rfl⟩ := exists_decimal hv
    rw [d.isChar_of_mem c hc] at hchar
    cases hchar

/-- The characters of a metric's name are ASCII characters, and no spaces. -/
theorem ascii_of_nameStart {c : Char} (h : nameStart c = true) : c.toNat < 128 ∧ Unicode.ascii.isSpace c = false := by
  unfold nameStart at h
  delta Char.isAlpha Char.isUpper Char.isLower at h
  simp only [Bool.or_eq_true, Bool.and_eq_true, decide_eq_true_eq, ge_iff_le, UInt32.le_iff_toNat_le] at h
  rcases h with ((⟨h1, h2⟩ | ⟨h1, h2⟩) | rfl) | rfl
  · have h1' : 65 ≤ c.val.toNat := h1
    have h2' : c.val.toNat ≤ 90 := h2
    exact ascii_of_range (by omega) (by omega)
  · have h1' : 97 ≤ c.val.toNat := h1
    have h2' : c.val.toNat ≤ 122 := h2
    exact ascii_of_range (by omega) (by omega)
  all_goals decide

/-! ### The expression's language -/

/-- `(?:\{[^}]*\})?`. -/
def IsBraces (cs : List Char) : Prop := cs = [] ∨ ∃ b, '\x7d' ∉ b ∧ cs = '\x7b' :: (b ++ ['\x7d'])

/-- What `_SAMPLE_RE` matches: a name, braces or none, spaces, a decimal whose point is not bare, spaces or none. -/
structure Matches (U : Unicode) (cs name : List Char) (value : Decimal) : Prop where
  name_ok : (name.head?.map nameStart).getD false = true ∧ ∀ c ∈ name, nameChar c = true
  notBare : value.barePoint = false
  parts : ∃ braces gap pad, cs = name ++ (braces ++ (gap ++ (value.text ++ pad))) ∧ IsBraces braces ∧
    (gap ≠ [] ∧ ∀ c ∈ gap, U.isSpace c = true) ∧ ∀ c ∈ pad, U.isSpace c = true

theorem afterLabels_eq_some {cs rest : List Char} (h : afterLabels cs = some rest) :
    ∃ braces, cs = braces ++ rest ∧ IsBraces braces := by
  unfold afterLabels at h
  split at h
  · rename_i cs
    have hsplit := List.takeWhile_append_dropWhile (p := (· ≠ '\x7d')) (l := cs)
    have hno : '\x7d' ∉ cs.takeWhile (· ≠ '\x7d') := fun hmem => by
      simpa using List.all_eq_true.1 List.all_takeWhile _ hmem
    split at h
    · rename_i x left hdrop
      cases h
      have hx : x = '\x7d' := by
        have hhead := List.head?_dropWhile_not (· ≠ '\x7d') cs
        rw [hdrop] at hhead
        simpa using hhead
      subst hx
      refine ⟨'\x7b' :: (cs.takeWhile (· ≠ '\x7d') ++ ['\x7d']), ?_, .inr ⟨_, hno, rfl⟩⟩
      rw [List.cons_append, List.append_assoc, List.singleton_append, ← hdrop, hsplit]
    · cases h
  · cases h; exact ⟨[], rfl, .inl rfl⟩

theorem afterLabels_braces {braces rest : List Char} (h : IsBraces braces) (hrest : rest.head? ≠ some '\x7b') :
    afterLabels (braces ++ rest) = some rest := by
  rcases h with rfl | ⟨b, hb, rfl⟩
  · cases rest with
    | nil => rfl
    | cons c cs =>
      show afterLabels (c :: cs) = _
      unfold afterLabels
      split
      · rename_i heq; cases heq; exact absurd rfl hrest
      · rfl
  · have hdrop : (b ++ '\x7d' :: rest).dropWhile (· ≠ '\x7d') = '\x7d' :: rest :=
      (takeWhile_run (fun c hc => by simpa using fun heq : c = '\x7d' => hb (heq ▸ hc)) (by simp)).2
    rw [List.cons_append, List.append_assoc, List.singleton_append, afterLabels]
    simp only [hdrop]

/-! ### The labels -/

/-- The text between the braces. -/
def inner (ls : List Label) : List Char := [','].intercalate (ls.map Label.text)

theorem label_text_brace (l : Label) : '\x7d' ∈ l.text ↔ '\x7d' ∈ l.value := by
  unfold Label.text
  simp only [List.mem_append, List.mem_cons, List.mem_nil_iff, or_false]
  rw [mem_escape (by decide) (by decide) (by decide) (by decide)]
  constructor
  · rintro (h | h | h | h | h)
    · exact absurd (l.name_ok _ h) (by decide)
    · cases h
    · cases h
    · exact h
    · cases h
  · intro h; exact .inr (.inr (.inr (.inl h)))

theorem inner_cons (l : Label) (ls : List Label) :
    inner (l :: ls) = l.text ++ (if ls = [] then [] else ',' :: inner ls) := by
  cases ls with
  | nil => simp [inner, List.intercalate]
  | cons m ms => simp [inner, List.intercalate]

/-- A closing brace between the braces is one in a value. -/
theorem brace_mem_inner (ls : List Label) : '\x7d' ∈ inner ls ↔ unbraced (some ls) = false := by
  induction ls with
  | nil => simp [inner, List.intercalate, unbraced]
  | cons l ls ih =>
    rw [inner_cons, List.mem_append, label_text_brace]
    have hcons : unbraced (some (l :: ls)) = (!l.value.contains '\x7d' && unbraced (some ls)) := rfl
    rw [hcons, Bool.and_eq_false_iff, ← ih]
    have hrest : '\x7d' ∈ (if ls = [] then [] else ',' :: inner ls) ↔ '\x7d' ∈ inner ls := by
      split
      · rename_i hnil; rw [hnil]; simp [inner, List.intercalate]
      · simp
    rw [hrest]
    simp

/-- The text between the braces ends with a quote. -/
theorem getLast?_inner {ls : List Label} (h : ls ≠ []) : (inner ls).getLast? = some '"' := by
  induction ls with
  | nil => exact absurd rfl h
  | cons l ls ih =>
    rw [inner_cons]
    have hlabel : l.text.getLast? = some '"' := by simp [Label.text, List.getLast?_append, List.getLast?_cons]
    by_cases hls : ls = []
    · rw [if_pos hls, List.append_nil, hlabel]
    · rw [if_neg hls, List.getLast?_append, List.getLast?_cons, ih hls]; rfl

/-- Labels without a closing brace in a value are passed over whole. -/
theorem isBraces_labelsText {labels : Option (List Label)} (h : unbraced labels = true) :
    IsBraces (labelsText labels) := by
  cases labels with
  | none => exact .inl rfl
  | some ls =>
    refine .inr ⟨inner ls, fun hmem => ?_, rfl⟩
    rw [brace_mem_inner, h] at hmem
    cases hmem

/-- A closing brace in a value ends the labels too early: a quote is left over. -/
theorem afterLabels_braced {labels : Option (List Label)} (h : unbraced labels = false) (rest : List Char) :
    ∃ left, afterLabels (labelsText labels ++ rest) = some left ∧ '"' ∈ left := by
  cases labels with
  | none => cases h
  | some ls =>
    obtain ⟨before, after, heq, hfirst⟩ := List.eq_append_cons_of_mem ((brace_mem_inner ls).2 h)
    have hquote : '"' ∈ after := by
      have hne : ls ≠ [] := by rintro rfl; cases h
      have hlast := getLast?_inner hne
      rw [heq, List.getLast?_append, List.getLast?_cons] at hlast
      cases ha : after.getLast? with
      | none => rw [ha] at hlast; cases hlast
      | some c =>
        rw [ha] at hlast
        cases hlast
        exact List.mem_of_getLast? ha
    have hdrop : (before ++ '\x7d' :: (after ++ '\x7d' :: rest)).dropWhile (· ≠ '\x7d') =
        '\x7d' :: (after ++ '\x7d' :: rest) :=
      (takeWhile_run (fun c hc => by simpa using fun heq : c = '\x7d' => hfirst (heq ▸ hc)) (by simp)).2
    have htext : labelsText (some ls) ++ rest = '\x7b' :: (before ++ '\x7d' :: (after ++ '\x7d' :: rest)) := by
      have hinner : [','].intercalate (ls.map Label.text) = before ++ '\x7d' :: after := heq
      simp [labelsText, hinner]
    refine ⟨after ++ '\x7d' :: rest, ?_, List.mem_append_left _ hquote⟩
    rw [htext, afterLabels]
    simp only [hdrop]

/-! ### The line -/

/-- What follows the labels. -/
def tailText (s : Sample) : List Char := s.gap ++ (s.value.text ++ stampText s.timestamp)

theorem text_eq_tail (s : Sample) : s.text = s.name ++ (labelsText s.labels ++ tailText s) := rfl

theorem head_value (d : Decimal) (rest : List Char) : ∃ c cs, d.text ++ rest = c :: cs ∧ Decimal.isChar c = true := by
  obtain ⟨c, cs, hd⟩ := List.exists_cons_of_ne_nil d.text_ne_nil
  exact ⟨c, cs ++ rest, by rw [hd]; rfl, d.isChar_of_mem c (by rw [hd]; exact List.mem_cons_self ..)⟩

/-- A character of a name is no space. -/
theorem not_space_of_nameChar (hU : U.SpacesOnAscii) {c : Char} (h : nameChar c = true) : U.isSpace c = false := by
  rw [nameChar, Bool.or_eq_true] at h
  rcases h with h | h
  · exact (hU c (ascii_of_nameStart h).1).trans (ascii_of_nameStart h).2
  · exact not_space_of_isChar hU (Decimal.isChar_of_digit h)

/-- The matcher takes what the expression matches, with the name and the value it has there. -/
theorem sampleMatch_eq_some (hU : U.SpacesOnAscii) {cs name value : List Char} :
    sampleMatch U cs = some (name, value) ↔ ∃ d : Decimal, d.text = value ∧ Matches U cs name d := by
  constructor
  · intro h
    unfold sampleMatch at h
    split at h
    · rename_i hstart
      obtain ⟨rest, hrest, h⟩ := Option.bind_eq_some_iff.1 h
      dsimp only at h
      split at h
      · rename_i hmatch
        cases h
        obtain ⟨d, hd⟩ := exists_decimal hmatch.2
        obtain ⟨braces, hbraces, hok⟩ := afterLabels_eq_some hrest
        have hname : (cs.takeWhile nameChar).head? = cs.head? := by
          cases cs with
          | nil => rfl
          | cons c cs =>
            have hc : nameChar c = true := by
              rw [nameChar, Bool.or_eq_true]; exact .inl hstart
            rw [List.takeWhile_cons, if_pos hc]; rfl
        refine ⟨d, hd, ⟨by rw [hname]; exact hstart, fun c hc => List.all_eq_true.1 List.all_takeWhile c hc⟩, ?_,
          braces, rest.takeWhile U.isSpace, ((rest.dropWhile U.isSpace).reverse.takeWhile U.isSpace).reverse, ?_,
            hok, ?_, ?_⟩
        · have hvalue := valueRe_text d
          rw [hd, hmatch.2] at hvalue
          simpa using hvalue
        · rw [hd, trimRight, ← List.reverse_append, List.takeWhile_append_dropWhile, List.reverse_reverse,
            List.takeWhile_append_dropWhile, ← hbraces, List.takeWhile_append_dropWhile]
        · refine ⟨fun hnil => ?_, fun c hc => List.all_eq_true.1 List.all_takeWhile c hc⟩
          cases rest with
          | nil => cases hmatch.1
          | cons c cs =>
            have hc : U.isSpace c = true := hmatch.1
            rw [List.takeWhile_cons, if_pos hc] at hnil
            cases hnil
        · intro c hc
          exact List.all_eq_true.1 List.all_takeWhile c (List.mem_reverse.1 hc)
      · cases h
    · cases h
  · rintro ⟨d, rfl, ⟨hstart, hname⟩, hbare, braces, gap, pad, rfl, hbraces, ⟨hne, hgap⟩, hpad⟩
    obtain ⟨n, ns, rfl⟩ : ∃ n ns, name = n :: ns := by
      cases name with
      | nil => cases hstart
      | cons n ns => exact ⟨n, ns, rfl⟩
    obtain ⟨g, gs, rfl⟩ := List.exists_cons_of_ne_nil hne
    have hg : U.isSpace g = true := hgap g (List.mem_cons_self ..)
    have hopen : ∀ c ∈ (braces ++ (g :: gs ++ (d.text ++ pad))).head?, nameChar c = false := by
      rcases hbraces with rfl | ⟨b, -, rfl⟩
      · rintro c ⟨⟩
        cases hc : nameChar g with
        | false => rfl
        | true => rw [not_space_of_nameChar hU hc] at hg; cases hg
      · rintro c ⟨⟩; rfl
    obtain ⟨htake, hdrop⟩ := takeWhile_run hname hopen
    have hrest : (g :: gs ++ (d.text ++ pad)).head? ≠ some '\x7b' := by
      intro h
      cases h
      rw [hU _ (by decide)] at hg
      cases hg
    obtain ⟨x, xs, hx, hchar⟩ := head_value d pad
    have hvalue : (g :: gs ++ (d.text ++ pad)).dropWhile U.isSpace = d.text ++ pad :=
      (takeWhile_run hgap (by rw [hx]; rintro c ⟨⟩; exact not_space_of_isChar hU hchar)).2
    have htrim : trimRight U (d.text ++ pad) = d.text := by
      have hlast : ∀ c ∈ d.text.reverse.head?, U.isSpace c = false := by
        rw [List.head?_reverse]
        exact fun c hc => not_space_of_isChar hU (d.isChar_of_mem c (List.mem_of_getLast? hc))
      rw [trimRight, List.reverse_append, (takeWhile_run (by simpa using hpad) hlast).2, List.reverse_reverse]
    unfold sampleMatch
    rw [if_pos (show ((n :: ns ++
      (braces ++ (g :: gs ++ (d.text ++ pad)))).head?.map nameStart).getD false = true from hstart),
      htake, hdrop, afterLabels_braces hbraces hrest]
    show (if U.isSpace g = true ∧ valueRe (trimRight U ((g :: gs ++ (d.text ++ pad)).dropWhile U.isSpace)) = true
      then some (n :: ns, trimRight U ((g :: gs ++ (d.text ++ pad)).dropWhile U.isSpace)) else none) = _
    rw [hvalue, htrim, valueRe_text, hbare, if_pos ⟨hg, rfl⟩]

/-- A line ends with a character of a decimal. -/
theorem getLast?_stamped (d : Decimal) (stamp : Option Stamp) :
    ∀ c ∈ (d.text ++ stampText stamp).getLast?, Decimal.isChar c = true := by
  intro c hc
  cases stamp with
  | none =>
    rw [show stampText none = [] from rfl, List.append_nil] at hc
    exact d.isChar_of_mem c (List.mem_of_getLast? hc)
  | some st =>
    obtain ⟨ds, x, hx⟩ := List.eq_nil_or_concat st.digits |>.resolve_left st.digits_ok.1
    have hlast : (d.text ++ stampText (some st)).getLast? = some x := by
      rw [stampText, hx]; simp [List.getLast?_append]
    rw [hlast] at hc
    cases hc
    exact Decimal.isChar_of_digit (st.digits_ok.2 _ (by rw [hx]; simp))

theorem getLast?_text (s : Sample) : ∀ c ∈ s.text.getLast?, Decimal.isChar c = true := by
  intro c hc
  obtain ⟨x, xs, hx, -⟩ := head_value s.value (stampText s.timestamp)
  have hne : s.value.text ++ stampText s.timestamp ≠ [] := by rw [hx]; exact List.cons_ne_nil _ _
  have hlast : s.text.getLast? = (s.value.text ++ stampText s.timestamp).getLast? := by
    rw [text_eq_tail, tailText, ← List.append_assoc, ← List.append_assoc, List.getLast?_append,
      List.getLast?_eq_some_getLast hne]
    rfl
  rw [hlast] at hc
  exact getLast?_stamped _ _ c hc

theorem stripChars_text (hU : U.SpacesOnAscii) (s : Sample) : stripChars U s.text = s.text := by
  obtain ⟨⟨c, cs, hname, hstart⟩, -⟩ := s.name_ok
  have hfirst : ∀ x ∈ s.text.head?, U.isSpace x = false := by
    rw [text_eq_tail, hname]
    rintro x ⟨⟩
    exact (hU _ (ascii_of_nameStart hstart).1).trans (ascii_of_nameStart hstart).2
  exact stripChars_self U hfirst fun c hc => not_space_of_isChar hU (getLast?_text s c hc)

/-- The value of a line, once the labels and the gap are passed over. -/
theorem trim_tail (hU : U.SpacesOnAscii) (s : Sample) :
    trimRight U ((tailText s).dropWhile U.isSpace) = s.value.text ++ stampText s.timestamp := by
  obtain ⟨x, xs, hx, hchar⟩ := head_value s.value (stampText s.timestamp)
  have hdrop : (tailText s).dropWhile U.isSpace = s.value.text ++ stampText s.timestamp :=
    (takeWhile_run (isSpace_of_gap hU s.isGap) (by rw [hx]; rintro c ⟨⟩; exact not_space_of_isChar hU hchar)).2
  have hlast : ∀ c ∈ (s.value.text ++ stampText s.timestamp).reverse.head?, U.isSpace c = false := by
    rw [List.head?_reverse]
    exact fun c hc => not_space_of_isChar hU (getLast?_stamped _ _ c hc)
  rw [hdrop, trimRight, dropWhile_of_head hlast, List.reverse_reverse]

theorem valueRe_stamped (d : Decimal) (stamp : Option Stamp) :
    valueRe (d.text ++ stampText stamp) = (stamp.isNone && !d.barePoint) := by
  cases stamp with
  | none => rw [show stampText none = [] from rfl, List.append_nil, valueRe_text]; rfl
  | some st =>
    obtain ⟨c, cs, hgap, hc⟩ := head_of_gap st.isGap (st.sign ++ st.digits)
    refine valueRe_of_mem (c := c) ?_ (by rcases hc with rfl | rfl <;> rfl)
    rw [stampText, hgap]
    exact List.mem_append_right _ (List.mem_cons_self ..)

/-- A sample line is matched exactly when it is plain, and then with its name and its value. -/
theorem sampleMatch_text (hU : U.SpacesOnAscii) (s : Sample) :
    sampleMatch U s.text = if plain s then some (s.name, s.value.text) else none := by
  obtain ⟨⟨c, cs, hname, hstart⟩, hchars⟩ := s.name_ok
  have hhead : (s.text.head?.map nameStart).getD false = true := by
    rw [text_eq_tail, hname]; exact hstart
  obtain ⟨g, gs, htail, hg⟩ := head_of_gap s.isGap (s.value.text ++ stampText s.timestamp)
  have hopen : ∀ c ∈ (labelsText s.labels ++ tailText s).head?, nameChar c = false := by
    intro x hx
    cases hl : s.labels with
    | none =>
      rw [hl, tailText, htail] at hx
      cases hx
      rcases hg with rfl | rfl <;> rfl
    | some ls => rw [hl] at hx; cases hx; rfl
  obtain ⟨htake, hdrop⟩ := takeWhile_run hchars hopen
  unfold sampleMatch
  rw [if_pos hhead, text_eq_tail, htake, hdrop]
  cases hb : unbraced s.labels with
  | true =>
    have hrest : (tailText s).head? ≠ some '\x7b' := by
      rw [tailText, htail]
      rcases hg with rfl | rfl <;> exact fun h => absurd (Option.some.inj h) (by decide)
    have hspace : ((tailText s).head?.map U.isSpace).getD false = true := by
      have hmem : U.isSpace g = true := isSpace_of_gap hU s.isGap g (by
        obtain ⟨x, xs, hx⟩ := List.exists_cons_of_ne_nil s.isGap.1
        rw [hx] at htail ⊢
        cases htail
        exact List.mem_cons_self ..)
      rw [tailText, htail]
      exact hmem
    rw [afterLabels_braces (isBraces_labelsText hb) hrest]
    show (if ((tailText s).head?.map U.isSpace).getD false = true ∧
        valueRe (trimRight U ((tailText s).dropWhile U.isSpace)) = true
      then some (s.name, trimRight U ((tailText s).dropWhile U.isSpace)) else none) = _
    rw [trim_tail hU, hspace, valueRe_stamped, plain, hb]
    cases hstamp : s.timestamp with
    | none => simp [stampText]
    | some st => simp
  | false =>
    obtain ⟨left, hleft, hquote⟩ := afterLabels_braced hb (tailText s)
    have hno : valueRe (trimRight U (left.dropWhile U.isSpace)) = false :=
      valueRe_of_mem (mem_trim hquote ((hU _ (by decide)).trans rfl)) rfl
    rw [hleft]
    show (if (left.head?.map U.isSpace).getD false = true ∧ valueRe (trimRight U (left.dropWhile U.isSpace)) = true
      then some (s.name, trimRight U (left.dropWhile U.isSpace)) else none) = _
    rw [hno, plain, hb]
    simp

theorem lineSample_text (hU : U.SpacesOnAscii) (s : Sample) :
    lineSample U s.text = if plain s then some (s.name, s.value.text) else none := by
  obtain ⟨⟨c, cs, hname, hstart⟩, -⟩ := s.name_ok
  have hcomment : ¬(s.text = [] ∨ s.text.head? = some '#') := by
    rw [text_eq_tail, hname]
    rintro (h | h)
    · cases h
    · cases h; cases hstart
  unfold lineSample
  dsimp only
  rw [stripChars_text hU, if_neg hcomment, sampleMatch_text hU]

/-- A comment is not read. -/
theorem lineSample_comment (hU : U.SpacesOnAscii) (cs : List Char) : lineSample U ('#' :: cs) = none := by
  unfold lineSample
  dsimp only
  rw [if_pos (.inr (head_stripChars ((hU _ (by decide)).trans rfl) cs))]

/-! ## A whole text -/

/-- What a line of the text adds. -/
def reading (U : Unicode) (line : List Char) : Option (String × PyFloat) :=
  (lineSample U line).bind fun m => (floatOfStr U (String.ofList m.2)).toOption.map fun v => (String.ofList m.1, v)

/-- A matched value is read. -/
theorem floatOfStr_of_match (hU : U.SpacesOnAscii) (hd : U.DigitsOnAscii) {line name value : List Char}
    (h : lineSample U line = some (name, value)) : ∃ v, floatOfStr U (String.ofList value) = .ok v := by
  unfold lineSample at h
  dsimp only at h
  split at h
  · cases h
  · obtain ⟨d, rfl, -⟩ := (sampleMatch_eq_some hU).1 h
    exact ⟨_, floatOfStr_text hU hd d⟩

/-- The parser raises nothing: it adds what each line adds. -/
theorem parseLines_eq (hU : U.SpacesOnAscii) (hd : U.DigitsOnAscii) :
    ∀ (lines : List (List Char)) (out : Dict String PyFloat),
    parseLines U lines out = .ok (Dict.update out (lines.filterMap (reading U)))
  | [], _ => rfl
  | line :: lines, out => by
    unfold parseLines
    cases hline : lineSample U line with
    | none =>
      have hnone : reading U line = none := by rw [reading, hline]; rfl
      rw [List.filterMap_cons_none hnone]
      exact parseLines_eq hU hd lines out
    | some m =>
      obtain ⟨name, value⟩ := m
      obtain ⟨v, hv⟩ := floatOfStr_of_match hU hd hline
      have hsome : reading U line = some (String.ofList name, v) := by
        rw [reading, hline, Option.bind_some, hv]; rfl
      rw [List.filterMap_cons_some hsome]
      show (floatOfStr U (String.ofList value) >>=
        fun v => parseLines U lines (Dict.set out (String.ofList name) v)) = _
      rw [hv, ok_bind]
      exact parseLines_eq hU hd lines _

/-- The samples of a text. -/
def samples (ls : List Line) : List (String × PyFloat) := ls.filterMap fun
  | .sample s => some (String.ofList s.name, valueOf s.value)
  | .comment .. => none

/-- A line that is one line for `splitlines` too. -/
def unbroken (l : Line) : Bool := l.text.all fun c => !isLineBreak c

/-- What is read off a line: a plain sample, and nothing of other samples and comments. A line with more
separators in it (in a label value, in a comment) is read in pieces. -/
def readings (U : Unicode) (l : Line) : List (String × PyFloat) :=
  if unbroken l then
    match l with
    | .sample s => if plain s then [(String.ofList s.name, valueOf s.value)] else []
    | .comment .. => []
  else (splitlines (l.text ++ ['\n'])).filterMap (reading U)

theorem reading_line (hU : U.SpacesOnAscii) (hd : U.DigitsOnAscii) (l : Line) :
    (splitlines (l.text ++ ['\n'])).filterMap (reading U) = readings U l := by
  unfold readings
  split
  · rename_i hone
    have hline : ∀ c ∈ l.text, isLineBreak c = false := by
      intro c hc
      simpa using List.all_eq_true.1 hone c hc
    rw [splitlines_line hline]
    cases l with
    | comment cs _ =>
      have hnone : reading U ('#' :: cs) = none := by rw [reading, lineSample_comment hU]; rfl
      exact List.filterMap_cons_none hnone
    | sample s =>
      have hread : reading U s.text = if plain s then some (String.ofList s.name, valueOf s.value) else none := by
        rw [reading, lineSample_text hU]
        split
        · rw [Option.bind_some, floatOfStr_text hU hd]; rfl
        · rfl
      show [s.text].filterMap (reading U) = _
      dsimp only
      split
      · rename_i hp
        rw [if_pos hp] at hread
        rw [List.filterMap_cons_some hread]; rfl
      · rename_i hp
        rw [if_neg hp] at hread
        exact List.filterMap_cons_none hread
  · rfl

theorem reading_document (hU : U.SpacesOnAscii) (hd : U.DigitsOnAscii) : ∀ ls : List Line,
    (splitlines (document ls)).filterMap (reading U) = ls.flatMap (readings U)
  | [] => rfl
  | l :: ls => by
    have hdoc : document (l :: ls) = l.text ++ '\n' :: document ls := by simp [document, Text.Lines.unlines]
    rw [hdoc, splitlines_newline, List.filterMap_append, reading_line hU hd, reading_document hU hd ls,
      List.flatMap_cons]

/-- The parser's answer for a text of samples and comments. -/
theorem parsePrometheusText_document (hU : U.SpacesOnAscii) (hd : U.DigitsOnAscii) (ls : List Line) :
    parsePrometheusText U (String.ofList (document ls)) = .ok (Dict.update [] (ls.flatMap (readings U))) := by
  rw [parsePrometheusText, String.toList_ofList, parseLines_eq hU hd, reading_document hU hd]

/-- Each metric has the value of its last sample line, and there are no others. -/
def LastValues (ls : List Line) (out : Dict String PyFloat) : Prop :=
  ∀ name, Dict.get? out name = Dict.lastOf (samples ls) name

/-- The parser returns; it keeps the last sample of each name exactly when the last line that is read
under the name has the value of the name's last sample. -/
theorem metrics_parsed_iff (hU : U.SpacesOnAscii) (hd : U.DigitsOnAscii) (ls : List Line) :
    ∃ out, parsePrometheusText U (String.ofList (document ls)) = .ok out ∧
      (LastValues ls out ↔ ∀ name, Dict.lastOf (ls.flatMap (readings U)) name = Dict.lastOf (samples ls) name) := by
  refine ⟨_, parsePrometheusText_document hU hd ls, forall_congr' fun name => ?_⟩
  rw [Dict.get?_update_lastOf]
  simp

/-- Lines of plain samples and comments, without other separators, are all read. -/
theorem flatMap_readings {ls : List Line} (hone : ∀ l ∈ ls, unbroken l = true)
    (hplain : ∀ s, .sample s ∈ ls → plain s = true) : ls.flatMap (readings U) = samples ls := by
  induction ls with
  | nil => rfl
  | cons l ls ih =>
    have ih := ih (fun l hl => hone l (List.mem_cons_of_mem _ hl)) fun s hs => hplain s (List.mem_cons_of_mem _ hs)
    have hl : readings U l = samples [l] := by
      unfold readings
      rw [if_pos (hone l (List.mem_cons_self ..))]
      cases l with
      | comment cs _ => rfl
      | sample s =>
        dsimp only
        rw [if_pos (hplain s (List.mem_cons_self ..))]
        rfl
    rw [List.flatMap_cons, ih, hl, samples, samples, samples, ← List.filterMap_append]
    rfl

/-- Of a text of such lines every metric's last value is kept. -/
theorem lastValues_of_plain (hU : U.SpacesOnAscii) (hd : U.DigitsOnAscii) {ls : List Line}
    (hone : ∀ l ∈ ls, unbroken l = true) (hplain : ∀ s, .sample s ∈ ls → plain s = true) :
    ∃ out, parsePrometheusText U (String.ofList (document ls)) = .ok out ∧ LastValues ls out := by
  refine ⟨_, parsePrometheusText_document hU hd ls, fun name => ?_⟩
  rw [Dict.get?_update_lastOf, flatMap_readings hone hplain]
  simp

end Read

section Runs

/-- Digits, without sign, point or exponent. -/
def digits (ds : List Char) (hne : ds ≠ []) (hds : ∀ c ∈ ds, c.isDigit = true) : Decimal where
  sign := []
  whole := ds
  fraction := none
  exponent := none
  isSign := .inl rfl
  whole_digits := hds
  fraction_digits := by rintro _ ⟨⟩
  has_digit := .inl hne
  exponent_ok := by rintro _ ⟨⟩

/-- `vllm:num_requests_waiting{model_name="m"} 4`, with any model name and any timestamp. -/
def waiting (model : List Char) (timestamp : Option Stamp) : Sample where
  name := "vllm:num_requests_waiting".toList
  labels := some [⟨"model_name".toList, model, by decide⟩]
  gap := [' ']
  value := digits ['4'] (by decide) (by decide)
  timestamp := timestamp
  name_ok := ⟨⟨'v', _, rfl, rfl⟩, by decide⟩
  isGap := ⟨by decide, by decide⟩

/-- A timestamp of one second. -/
def second : Stamp where
  gap := [' ']
  sign := []
  digits := ['1', '0', '0', '0']
  isGap := ⟨by decide, by decide⟩
  isSign := .inl rfl
  digits_ok := ⟨by decide, by decide⟩

theorem metrics_parsed_waiting : ∃ out,
    parsePrometheusText .ascii (String.ofList (document [.comment " gauge".toList (by decide),
      .sample (waiting ['m'] none)])) =
      .ok out ∧ LastValues [.comment " gauge".toList (by decide), .sample (waiting ['m'] none)] out := by
  obtain ⟨out, hout, hiff⟩ := metrics_parsed_iff (U := .ascii) (fun _ _ => rfl) digitsOnAscii_ascii
    [.comment " gauge".toList (by decide), .sample (waiting ['m'] none)]
  refine ⟨out, hout, hiff.2 fun name => ?_⟩
  rw [flatMap_readings (by decide) (by rintro s hs; simp at hs; rw [hs]; decide)]

/-- A sample with a timestamp and one with a closing brace in its label are lost. -/
theorem metrics_missed :
    document [.sample (waiting ['m'] (some second)), .sample (waiting ['\x7d'] none)] =
      "vllm:num_requests_waiting\x7bmodel_name=\"m\"\x7d 4 1000\nvllm:num_requests_waiting\x7bmodel_name=\"\x7d\"\x7d 4\n".toList ∧
    parsePrometheusText .ascii (String.ofList
      (document [.sample (waiting ['m'] (some second)), .sample (waiting ['\x7d'] none)])) = .ok [] ∧
    ¬LastValues [.sample (waiting ['m'] (some second)), .sample (waiting ['\x7d'] none)] [] := by
  refine ⟨by decide, ?_, fun h => ?_⟩
  · rw [parsePrometheusText_document (fun _ _ => rfl) digitsOnAscii_ascii]
    have hnone : List.flatMap (readings .ascii) [.sample (waiting ['m'] (some second)),
      .sample (waiting ['\x7d'] none)] = [] := by
      decide
    rw [hnone]
    rfl
  · have hlast := h "vllm:num_requests_waiting"
    rw [Dict.get?_nil] at hlast
    exact absurd hlast.symm (by decide)

end Runs

end Dio.Engine
