/-
What PyYAML's `safe_load` makes of block-style YAML: plain scalars are resolved by the rules of YAML 1.1
to null, flags, numbers and dates, and are texts otherwise.
-/
import DioServe.Py.Value
import DioServe.Text.BlockYaml
import Mathlib.Computability.RegularExpressions

namespace Py.Yaml

open Data Text.BlockYaml RegularExpression

/-! ## The resolvers -/

/-- `[...]`. -/
def oneOf (cs : String) : RegularExpression Char := (cs.toList.map char).foldr (· + ·) 0

/-- `P?`. -/
def opt (P : RegularExpression Char) : RegularExpression Char := P + 1

/-- `P+`. -/
def many (P : RegularExpression Char) : RegularExpression Char := P * P.star

def word (w : String) : RegularExpression Char := (w.toList.map char).foldr (· * ·) 1

def sign : RegularExpression Char := opt (oneOf "+-")

def digit : RegularExpression Char := oneOf "0123456789"

def digitsBar : RegularExpression Char := (oneOf "0123456789_").star

/-- `(?::[0-5]?[0-9])+`. -/
def sixties : RegularExpression Char := many (char ':' * opt (oneOf "012345") * digit)

/-- `(?:[eE][-+][0-9]+)?`. -/
def exponent : RegularExpression Char := opt (oneOf "eE" * oneOf "+-" * many digit)

/-- `0|[1-9][0-9_]*`, with a sign. -/
def decimalRe : RegularExpression Char := sign * (char '0' + oneOf "123456789" * digitsBar)

def intRe : RegularExpression Char :=
  sign * (word "0b" * many (oneOf "01_") + char '0' * many (oneOf "01234567_") +
    word "0x" * many (oneOf "0123456789abcdefABCDEF_") + oneOf "123456789" * digitsBar * sixties)

def floatRe : RegularExpression Char :=
  sign * digit * digitsBar * char '.' * digitsBar * exponent + char '.' * digit * digitsBar * exponent +
    sign * digit * digitsBar * sixties * char '.' * digitsBar + sign * char '.' * (word "inf" + word "Inf" + word "INF") +
    char '.' * (word "nan" + word "NaN" + word "NAN")

/-- A date, or a date and a time. -/
def timestampRe : RegularExpression Char :=
  digit * digit * digit * digit * char '-' *
    (digit * digit * char '-' * digit * digit +
      digit * opt digit * char '-' * digit * opt digit * (oneOf "Tt" + many (oneOf " \t")) * digit * opt digit * char ':' *
        digit * digit * char ':' * digit * digit * opt (char '.' * digit.star) *
        opt ((oneOf " \t").star * (char 'Z' + oneOf "+-" * digit * opt digit * opt (char ':' * digit * digit))))

def nulls : List (List Char) := ["".toList, "~".toList, "null".toList, "Null".toList, "NULL".toList]

def trues : List (List Char) :=
  ["yes".toList, "Yes".toList, "YES".toList, "true".toList, "True".toList, "TRUE".toList, "on".toList, "On".toList,
    "ON".toList]

def falses : List (List Char) :=
  ["no".toList, "No".toList, "NO".toList, "false".toList, "False".toList, "FALSE".toList, "off".toList, "Off".toList,
    "OFF".toList]

/-- The merge key and the value key, for which there is no constructor. -/
def unconstructed : List (List Char) := ["<<".toList, "=".toList]

/-- The characters a number can start with; the resolvers are looked up by the first character. -/
def numberStart : List Char → Bool
  | [] => false
  | c :: _ => c ∈ "-+0123456789.".toList

/-- A plain scalar that no resolver takes is a text. -/
def isTextScalar (cs : List Char) : Bool :=
  !(cs ∈ nulls || cs ∈ trues || cs ∈ falses || cs ∈ unconstructed) &&
    !(numberStart cs && (floatRe.rmatch cs || intRe.rmatch cs || decimalRe.rmatch cs || timestampRe.rmatch cs))

/-- The value of a decimal integer. -/
def decimalValue (cs : List Char) : Int :=
  let v : Int := Nat.ofDigitChars 10 (cs.filter Char.isDigit) 0
  if cs.head? = some '-' then -v else v

section Load

-- what the constructors make of the other numbers
variable (constructs : List Char → Json)

/-- The value of a plain scalar; dates are beyond what is read here. -/
def resolve (cs : List Char) : Except Stop Json :=
  if isTextScalar cs then .ok (.str (String.ofList cs))
  else if cs ∈ nulls then .ok .null
  else if cs ∈ trues then .ok (.bool true)
  else if cs ∈ falses then .ok (.bool false)
  else if cs ∈ unconstructed then .error .refused
  else if decimalRe.rmatch cs then .ok (.int (decimalValue cs))
  else if timestampRe.rmatch cs then .error .beyond
  else .ok (constructs cs)

/-- A member of a mapping; keys that are no texts are beyond. -/
def memberAt (kv : List Char × Json) : Except Stop (String × Json) := do
  match ← resolve constructs kv.1 with
  | .str k => return (k, kv.2)
  | _ => .error .beyond

def mapping (kvs : List (List Char × Json)) : Except Stop Json := do
  return .obj (Dict.update [] (← readEach (memberAt constructs) kvs))

/-- The value of block-style YAML. -/
def readYaml (text : List Char) : Except Stop Json := read (resolve constructs) Json.arr (mapping constructs) text

/-- `safe_load` returns the value of block-style YAML, and raises on what YAML refuses. -/
structure ReadsBlockStyle (load : List Char → Option Json) : Prop where
  reads : ∀ text j, readYaml constructs text = .ok j → load text = some j
  refuses : ∀ text, readYaml constructs text = .error .refused → load text = none

end Load

/-- A text without line breaks. -/
def IsLine (cs : List Char) : Prop := ∀ c ∈ cs, c ≠ '\n' ∧ c ∉ otherBreaks

/-- A line that is read back as itself. -/
structure ReadsBack (cs : List Char) : Prop where
  plain : IsPlain cs
  printable : ∀ c ∈ cs, isPrintable c = true
  isText : isTextScalar cs = true

instance (cs : List Char) : Decidable (IsLine cs) := inferInstanceAs (Decidable (∀ c ∈ cs, c ≠ '\n' ∧ c ∉ otherBreaks))

instance (cs : List Char) : Decidable (ReadsBack cs) :=
  decidable_of_iff (IsPlain cs ∧ (∀ c ∈ cs, isPrintable c = true) ∧ isTextScalar cs = true)
    ⟨fun ⟨h₁, h₂, h₃⟩ => ⟨h₁, h₂, h₃⟩, fun h => ⟨h.plain, h.printable, h.isText⟩⟩

theorem resolve_text (constructs : List Char → Json) {cs : List Char} (h : isTextScalar cs = true) :
    resolve constructs cs = .ok (.str (String.ofList cs)) := if_pos h

/-- A scalar that resolves to a text is the text. -/
theorem eq_of_resolve {constructs : List Char → Json} (hother : ∀ cs s, constructs cs ≠ .str s) {cs : List Char}
    {s : String}
    (h : resolve constructs cs = .ok (.str s)) : s = String.ofList cs ∧ isTextScalar cs = true := by
  unfold resolve at h
  split at h
  · rename_i htext; cases h; exact ⟨rfl, htext⟩
  · split at h
    · cases h
    · split at h
      · cases h
      · split at h
        · cases h
        · split at h
          · cases h
          · split at h
            · cases h
            · split at h
              · cases h
              · exact absurd (Except.ok.inj h) (hother cs s)

end Py.Yaml
