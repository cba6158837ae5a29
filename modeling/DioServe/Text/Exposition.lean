/-
The text exposition format of metrics: lines with a sample (a metric name, labels, a decimal value, a
timestamp) and comments. A label's value is any text, with backslash, quote and newline escaped.
-/
import DioServe.Text.Lines

namespace Text.Exposition

/-! ## Decimals -/

/-- A sign, or none. -/
def IsSign (cs : List Char) : Prop := cs = [] ∨ cs = ['+'] ∨ cs = ['-']

/-- A finite decimal as it is written: at least one digit before or after the point. -/
structure Decimal where
  sign : List Char
  whole : List Char
  /-- The digits after the point, when there is one. -/
  fraction : Option (List Char)
  /-- The letter, the sign and the digits of an exponent. -/
  exponent : Option (Char × List Char × List Char)
  isSign : IsSign sign
  whole_digits : ∀ c ∈ whole, c.isDigit = true
  fraction_digits : ∀ ds ∈ fraction, ∀ c ∈ ds, c.isDigit = true
  has_digit : whole ≠ [] ∨ ∃ ds, fraction = some ds ∧ ds ≠ []
  exponent_ok : ∀ e ∈ exponent, (e.1 = 'e' ∨ e.1 = 'E') ∧ IsSign e.2.1 ∧ e.2.2 ≠ [] ∧ ∀ c ∈ e.2.2, c.isDigit = true

namespace Decimal

def fractionText : Option (List Char) → List Char
  | none => []
  | some ds => '.' :: ds

def exponentText : Option (Char × List Char × List Char) → List Char
  | none => []
  | some (e, sign, ds) => e :: (sign ++ ds)

def text (d : Decimal) : List Char := d.sign ++ (d.whole ++ (fractionText d.fraction ++ exponentText d.exponent))

def negative (d : Decimal) : Bool := d.sign = ['-']

/-- The digits, without the point. -/
def mantissa (d : Decimal) : Nat := Nat.ofDigitChars 10 (d.whole ++ d.fraction.getD []) 0

/-- The power of ten of the last digit. -/
def scale (d : Decimal) : Int :=
  (match d.exponent with
    | none => 0
    | some (_, sign, ds) => if sign = ['-'] then -(Nat.ofDigitChars 10 ds 0 : Int) else Nat.ofDigitChars 10 ds 0) -
    (d.fraction.getD []).length

/-- There is a point without digits after it. -/
def barePoint (d : Decimal) : Bool := d.fraction = some []

/-- The characters of a decimal. -/
def isChar (c : Char) : Bool := c.isDigit || c = '+' || c = '-' || c = '.' || c = 'e' || c = 'E'

theorem isChar_of_digit {c : Char} (h : c.isDigit = true) : isChar c = true := by simp [isChar, h]

theorem isChar_of_sign {cs : List Char} (h : IsSign cs) : ∀ c ∈ cs, isChar c = true := by
  rcases h with rfl | rfl | rfl <;> decide

theorem isChar_of_mem (d : Decimal) : ∀ c ∈ d.text, isChar c = true := by
  intro c hc
  simp only [text, List.mem_append] at hc
  rcases hc with hc | hc | hc | hc
  · exact isChar_of_sign d.isSign c hc
  · exact isChar_of_digit (d.whole_digits c hc)
  · cases hf : d.fraction with
    | none => rw [hf] at hc; cases hc
    | some ds =>
      rw [hf] at hc
      rcases List.mem_cons.1 hc with rfl | hc
      · rfl
      · exact isChar_of_digit (d.fraction_digits ds hf c hc)
  · cases he : d.exponent with
    | none => rw [he] at hc; cases hc
    | some e =>
      obtain ⟨hletter, hsign, -, hdigits⟩ := d.exponent_ok e he
      rw [he] at hc
      rcases List.mem_cons.1 hc with rfl | hc
      · rcases hletter with h | h <;> rw [h] <;> rfl
      · rcases List.mem_append.1 hc with hc | hc
        · exact isChar_of_sign hsign c hc
        · exact isChar_of_digit (hdigits c hc)

theorem text_ne_nil (d : Decimal) : d.text ≠ [] := by
  intro h
  simp only [text, List.append_eq_nil_iff] at h
  rcases d.has_digit with hw | ⟨ds, hf, -⟩
  · exact hw h.2.1
  · rw [hf] at h
    exact absurd h.2.2.1 (List.cons_ne_nil _ _)

end Decimal

/-! ## Samples -/

def nameStart (c : Char) : Bool := c.isAlpha || c = '_' || c = ':'

def nameChar (c : Char) : Bool := nameStart c || c.isDigit

/-- A label: its name and its value, any text. -/
structure Label where
  name : List Char
  value : List Char
  name_ok : ∀ c ∈ name, nameChar c = true

def escape : List Char → List Char
  | [] => []
  | '\\' :: cs => '\\' :: '\\' :: escape cs
  | '"' :: cs => '\\' :: '"' :: escape cs
  | '\n' :: cs => '\\' :: 'n' :: escape cs
  | c :: cs => c :: escape cs

def Label.text (l : Label) : List Char := l.name ++ '=' :: '"' :: (escape l.value ++ ['"'])

/-- The labels of a sample, between braces. -/
def labelsText : Option (List Label) → List Char
  | none => []
  | some ls => '\x7b' :: ([','].intercalate (ls.map Label.text) ++ ['\x7d'])

/-- Blanks and tabs, at least one. -/
def IsGap (cs : List Char) : Prop := cs ≠ [] ∧ ∀ c ∈ cs, c = ' ' ∨ c = '\t'

/-- A timestamp after a gap. -/
structure Stamp where
  gap : List Char
  sign : List Char
  digits : List Char
  isGap : IsGap gap
  isSign : IsSign sign
  digits_ok : digits ≠ [] ∧ ∀ c ∈ digits, c.isDigit = true

def stampText : Option Stamp → List Char
  | none => []
  | some s => s.gap ++ (s.sign ++ s.digits)

structure Sample where
  name : List Char
  labels : Option (List Label)
  gap : List Char
  value : Decimal
  timestamp : Option Stamp
  name_ok : (∃ c cs, name = c :: cs ∧ nameStart c = true) ∧ ∀ c ∈ name, nameChar c = true
  isGap : IsGap gap

def Sample.text (s : Sample) : List Char :=
  s.name ++ (labelsText s.labels ++ (s.gap ++ (s.value.text ++ stampText s.timestamp)))

/-- No label value has a closing brace. -/
def unbraced (labels : Option (List Label)) : Bool := (labels.getD []).all fun l => !l.value.contains '\x7d'

theorem mem_escape {c : Char} (h1 : c ≠ '\\') (h2 : c ≠ '"') (h3 : c ≠ '\n') (h4 : c ≠ 'n') :
    ∀ {cs : List Char}, c ∈ escape cs ↔ c ∈ cs := by
  intro cs
  induction cs using escape.induct with
  | case1 => simp [escape]
  | case2 cs ih => simp [escape, ih, h1]
  | case3 cs ih => simp [escape, ih, h1, h2]
  | case4 cs ih => simp [escape, ih, h1, h3, h4]
  | case5 d cs hd1 hd2 hd3 ih =>
    rw [escape, List.mem_cons, List.mem_cons, ih]
    all_goals assumption

/-! ## Lines -/

inductive Line
  | sample (s : Sample)
  | comment (cs : List Char) (oneLine : '\n' ∉ cs)

def Line.text : Line → List Char
  | .sample s => s.text
  | .comment cs _ => '#' :: cs

/-- A text of lines. -/
def document (ls : List Line) : List Char := Lines.unlines (ls.map Line.text)

end Text.Exposition
