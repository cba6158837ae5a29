/-
JSON values and the operations Python performs on them: truth, `or`, `.get`, `str`, `repr`, `int`,
`float`. A built-in that raises returns `Except` with the class of its exception. A float is its
exact decimal value (or an infinity, or NaN); the character tables of the interpreter's Unicode
database are a parameter.
-/
import DioServe.Data.Dict
import Mathlib.Data.Rat.Floor
import Mathlib.Algebra.Order.Floor.Ring

namespace Py

open Data

/-! ## Values -/

/-- The exception classes the built-ins raise. -/
inductive PyErr
  | attributeError | typeError | valueError | keyError | overflowError
  deriving DecidableEq, Repr

def PyErr.name : PyErr → String
  | .attributeError => "AttributeError"
  | .typeError => "TypeError"
  | .valueError => "ValueError"
  | .keyError => "KeyError"
  | .overflowError => "OverflowError"

/-- A sequence returns when both of its parts do. -/
theorem bind_eq_ok {α β ε : Type} {y : Except ε α} {f : α → Except ε β} {b : β} :
    (y >>= f) = .ok b ↔ ∃ a, y = .ok a ∧ f a = .ok b := by
  cases y with
  | ok a =>
    constructor
    · intro h; exact ⟨a, rfl, h⟩
    · rintro ⟨_, ha, h⟩; cases ha; exact h
  | error e =>
    constructor
    · intro h; cases h
    · rintro ⟨_, ha, -⟩; cases ha

theorem ok_bind {α β ε : Type} (a : α) (f : α → Except ε β) : (Except.ok a >>= f) = f a := rfl

/-- A computation does not raise. -/
def Returns {α ε : Type} (y : Except ε α) : Prop := ∃ a, y = .ok a

theorem returns_ok {α ε : Type} (a : α) : Returns (.ok a : Except ε α) := ⟨a, rfl⟩

theorem not_returns_error {α ε : Type} (e : ε) : ¬ Returns (.error e : Except ε α) := nofun

/-- A sequence returns when its first part does and the rest, which raises or not whatever it is given. -/
theorem returns_bind {α β ε : Type} {y : Except ε α} {f : α → Except ε β} {P Q : Prop} (hy : Returns y ↔ P)
    (hf : ∀ a, Returns (f a) ↔ Q) : Returns (y >>= f) ↔ P ∧ Q := by
  rw [← hy]
  constructor
  · rintro ⟨b, h⟩
    obtain ⟨a, ha, hb⟩ := bind_eq_ok.1 h
    exact ⟨⟨a, ha⟩, (hf a).1 ⟨b, hb⟩⟩
  · rintro ⟨⟨a, ha⟩, hQ⟩
    obtain ⟨b, hb⟩ := (hf a).2 hQ
    exact ⟨b, bind_eq_ok.2 ⟨a, ha, hb⟩⟩

/-- A sequence whose rest never raises. -/
theorem returns_map {α β ε : Type} {y : Except ε α} (f : α → β) : Returns (y >>= fun a => pure (f a)) ↔ Returns y :=
  (returns_bind Iff.rfl fun a => iff_of_true (returns_ok (f a)) trivial).trans (and_iff_left trivial)

/-- A Python float. -/
inductive PyFloat
  | fin (q : ℚ) | inf (neg : Bool) | nan
  deriving DecidableEq

/-- A value `json.loads` can return. -/
inductive Json
  | null
  | bool (b : Bool)
  | int (n : Int)
  | float (x : PyFloat)
  | str (s : String)
  | arr (xs : List Json)
  | obj (kvs : List (String × Json))

/-- A Python `dict` with string keys. -/
abbrev Obj := Dict String Json

/-- The tables of the Unicode database: lower-casing of a text, `str.isspace`, `str.isprintable`
and the value of a decimal digit. -/
structure Unicode where
  lower : List Char → List Char
  isSpace : Char → Bool
  isPrintable : Char → Bool
  digitVal : Char → Option Nat

/-- The tables on ASCII text. -/
def Unicode.ascii : Unicode where
  lower := List.map Char.toLower
  isSpace c := c.val = 0x20 ∨ 9 ≤ c.val ∧ c.val ≤ 13 ∨ 0x1C ≤ c.val ∧ c.val ≤ 0x1F
  isPrintable c := 0x20 ≤ c.val ∧ c.val < 0x7F
  digitVal c := if '0' ≤ c ∧ c ≤ '9' then some (c.toNat - '0'.toNat) else none

/-- The tables agree with the interpreter's on the spaces among the ASCII characters. -/
def Unicode.SpacesOnAscii (U : Unicode) : Prop := ∀ c : Char, c.toNat < 128 → U.isSpace c = Unicode.ascii.isSpace c

/-! ## Texts -/

section Text

variable (U : Unicode)

def stripChars (cs : List Char) : List Char :=
  ((cs.dropWhile U.isSpace).reverse.dropWhile U.isSpace).reverse

/-- `s.strip()`. -/
def strip (s : String) : String := String.ofList (stripChars U s.toList)

theorem dropWhile_of_head {p : Char → Bool} : ∀ {cs : List Char}, (∀ c ∈ cs.head?, p c = false) → cs.dropWhile p = cs
  | [], _ => rfl
  | c :: cs, h => by rw [List.dropWhile_cons, h c rfl, if_neg Bool.false_ne_true]

/-- Stripping the spaces around a text that neither starts nor ends with one. -/
theorem stripChars_pad {a cs b : List Char} (ha : ∀ c ∈ a, U.isSpace c = true) (hb : ∀ c ∈ b, U.isSpace c = true)
    (hfirst : ∀ c ∈ cs.head?, U.isSpace c = false) (hlast : ∀ c ∈ cs.getLast?, U.isSpace c = false) :
    stripChars U (a ++ (cs ++ b)) = cs := by
  have hleft : (a ++ (cs ++ b)).dropWhile U.isSpace = (cs ++ b).dropWhile U.isSpace :=
    List.dropWhile_append_of_pos ha
  have hright : ((cs ++ b).reverse).dropWhile U.isSpace = cs.reverse := by
    rw [List.reverse_append, List.dropWhile_append_of_pos (by simpa using hb)]
    exact dropWhile_of_head (by simpa using hlast)
  unfold stripChars
  rw [hleft]
  cases cs with
  | nil =>
    have hnone : b.dropWhile U.isSpace = [] := by
      have h : (b ++ []).dropWhile U.isSpace = [].dropWhile U.isSpace := List.dropWhile_append_of_pos hb
      rwa [List.append_nil] at h
    rw [List.nil_append, hnone]
    rfl
  | cons c cs =>
    have hkept : (c :: cs ++ b).dropWhile U.isSpace = c :: cs ++ b := dropWhile_of_head hfirst
    rw [hkept, hright, List.reverse_reverse]

/-- A text that neither starts nor ends with a space is its own stripping. -/
theorem stripChars_self {cs : List Char} (hfirst : ∀ c ∈ cs.head?, U.isSpace c = false)
    (hlast : ∀ c ∈ cs.getLast?, U.isSpace c = false) : stripChars U cs = cs := by
  have hpad : stripChars U ([] ++ (cs ++ [])) = cs :=
    stripChars_pad U (List.forall_mem_nil _) (List.forall_mem_nil _) hfirst hlast
  rwa [List.append_nil, List.nil_append] at hpad

/-- `s.lower()`. -/
def lower (s : String) : String := String.ofList (U.lower s.toList)

/-- The longest run of `[0-9](_?[0-9])*` read as a number, with how many digits it has. -/
def readDigits : List Char → Nat → Nat → Option (Nat × Nat × List Char)
  | [], acc, n => if n = 0 then none else some (acc, n, [])
  | c :: cs, acc, n =>
    match U.digitVal c with
    | some d => readDigits cs (acc * 10 + d) (n + 1)
    | none =>
      if n = 0 then none
      else match c, cs with
        | '_', c' :: cs' =>
          match U.digitVal c' with
          | some d => readDigits cs' (acc * 10 + d) (n + 1)
          | none => some (acc, n, c :: cs)
        | _, _ => some (acc, n, c :: cs)

def readSign : List Char → Bool × List Char
  | '-' :: cs => (true, cs)
  | '+' :: cs => (false, cs)
  | cs => (false, cs)

/-- `int(s)` of a text. -/
def intOfStr (s : String) : Except PyErr Int :=
  let (neg, cs) := readSign (stripChars U s.toList)
  match readDigits U cs 0 0 with
  | some (v, _, []) => .ok (if neg then -v else v)
  | _ => .error .valueError

end Text

/-! ## Numbers -/

/-- From this magnitude on a value rounds to an infinity. -/
def floatOverflow : ℚ := 2 ^ 1024 - 2 ^ 970

/-- The float of `(-1)^neg * m * 10^e`. -/
def ofDecimal (neg : Bool) (m : Nat) (e : Int) : PyFloat :=
  if m = 0 then .fin 0
  else if (Nat.toDigits 10 m).length + e > 310 then .inf neg
  else if (Nat.toDigits 10 m).length + e < -330 then .fin 0
  else
    let q : ℚ := m * (10 : ℚ) ^ e
    if q ≥ floatOverflow then .inf neg else .fin (if neg then -q else q)

/-- `.digits` after a mantissa: the mantissa with the digits appended and their number. -/
def readFraction (U : Unicode) (m : Nat) : List Char → Nat × Nat × List Char
  | '.' :: cs =>
    match readDigits U cs m 0 with
    | some (m', n, rest) => (m', n, rest)
    | none => (m, 0, cs)
  | cs => (m, 0, cs)

/-- An exponent part. -/
def readExponent (U : Unicode) (cs : List Char) : Int × List Char :=
  match cs with
  | c :: cs' =>
    if c = 'e' ∨ c = 'E' then
      match readDigits U (readSign cs').2 0 0 with
      | some (v, _, rest) => (if (readSign cs').1 then -v else v, rest)
      | none => (0, cs)
    else (0, cs)
  | [] => (0, [])

/-- `float(s)` of a text. -/
def floatOfStr (U : Unicode) (s : String) : Except PyErr PyFloat :=
  let (neg, cs) := readSign (stripChars U s.toList)
  let word := String.ofList (cs.map Char.toLower)
  if word = "inf" ∨ word = "infinity" then .ok (.inf neg)
  else if word = "nan" then .ok .nan
  else
    let (m, whole, cs) := match readDigits U cs 0 0 with
      | some (m, n, rest) => (m, n, rest)
      | none => (0, 0, cs)
    let (m, places, cs) := readFraction U m cs
    let (e, cs) := readExponent U cs
    if whole + places = 0 ∨ cs ≠ [] then .error .valueError else .ok (ofDecimal neg m (e - places))

/-- The fewest decimal places that write `q` exactly (at most `fuel` more). -/
def decimalPlaces (q : ℚ) : Nat → Nat → Nat
  | 0, k => k
  | fuel + 1, k => if 10 ^ k % q.den = 0 then k else decimalPlaces q fuel (k + 1)

/-- `repr` of a finite float: positional for decimal exponents in `(-5, 16)`, else scientific. -/
def reprRat (q : ℚ) : String :=
  let k := decimalPlaces q 400 0
  let digits := Nat.toDigits 10 (⌊|q| * 10 ^ k⌋.toNat)
  let n := digits.length
  let p : Int := n - k
  let body :=
    if q = 0 then "0.0"
    else if -4 < p ∧ p ≤ 16 then
      if p ≤ 0 then "0." ++ String.ofList (List.replicate (-p).toNat '0' ++ digits)
      else if (n : Int) ≤ p then String.ofList (digits ++ List.replicate (p - n).toNat '0') ++ ".0"
      else String.ofList (digits.take p.toNat) ++ "." ++ String.ofList (digits.drop p.toNat)
    else
      let kept := (digits.reverse.dropWhile (· = '0')).reverse
      let mant := match kept with
        | [] => "0"
        | [d] => String.ofList [d]
        | d :: ds => String.ofList [d] ++ "." ++ String.ofList ds
      let e := p - 1
      let mag := toString e.natAbs
      mant ++ (if e < 0 then "e-" else "e+") ++ (if mag.length < 2 then "0" ++ mag else mag)
  if q < 0 then "-" ++ body else body

/-- `repr(x)` of a float. -/
def PyFloat.repr : PyFloat → String
  | .fin q => reprRat q
  | .inf false => "inf"
  | .inf true => "-inf"
  | .nan => "nan"

/-- `int(x)` of a float: truncation towards zero. -/
def PyFloat.trunc : PyFloat → Except PyErr Int
  | .fin q => .ok (if 0 ≤ q then ⌊q⌋ else ⌈q⌉)
  | .inf _ => .error .overflowError
  | .nan => .error .valueError

/-! ## `repr` and `str` -/

section Repr

variable (U : Unicode)

def hexDigits (width n : Nat) : List Char :=
  let ds := Nat.toDigits 16 n
  List.replicate (width - ds.length) '0' ++ ds

/-- One character of `repr(s)` between the quotes `q`. -/
def escapeChar (q c : Char) : List Char :=
  if c = '\\' then ['\\', '\\']
  else if c = q then ['\\', q]
  else if c = '\n' then ['\\', 'n']
  else if c = '\r' then ['\\', 'r']
  else if c = '\t' then ['\\', 't']
  else if U.isPrintable c then [c]
  else if c.toNat < 0x100 then '\\' :: 'x' :: hexDigits 2 c.toNat
  else if c.toNat < 0x10000 then '\\' :: 'u' :: hexDigits 4 c.toNat
  else '\\' :: 'U' :: hexDigits 8 c.toNat

/-- `repr(s)` of a text: single quotes, unless only those occur in it. -/
def reprStr (s : String) : String :=
  let q := if s.toList.contains '\'' && !s.toList.contains '"' then '"' else '\''
  String.ofList (q :: (s.toList.flatMap (escapeChar U q) ++ [q]))

mutual

/-- `repr(j)`. -/
def repr : Json → String
  | .null => "None"
  | .bool b => if b then "True" else "False"
  | .int n => toString n
  | .float x => x.repr
  | .str s => reprStr U s
  | .arr xs => "[" ++ ", ".intercalate (reprElems xs) ++ "]"
  | .obj kvs => "\x7b" ++ ", ".intercalate (reprItems kvs) ++ "\x7d"

def reprElems : List Json → List String
  | [] => []
  | x :: xs => repr x :: reprElems xs

def reprItems : List (String × Json) → List String
  | [] => []
  | (k, v) :: kvs => (reprStr U k ++ ": " ++ repr v) :: reprItems kvs

end

/-- `str(j)`. -/
def str : Json → String
  | .str s => s
  | j => repr U j

end Repr

namespace Json

/-! ## Truth and access -/

/-- `bool(j)`. -/
def truthy : Json → Bool
  | .null => false
  | .bool b => b
  | .int n => n ≠ 0
  | .float x => x ≠ .fin 0
  | .str s => s ≠ ""
  | .arr xs => !xs.isEmpty
  | .obj kvs => !kvs.isEmpty

/-- `j or other`. -/
def orElse (j other : Json) : Json := if j.truthy then j else other

def isNull : Json → Bool
  | .null => true
  | _ => false

theorem eq_null_of_isNull {j : Json} (h : j.isNull = true) : j = .null := by
  cases j with
  | null => rfl
  | _ => cases h

/-- `j.get(k, default)`. -/
def getD (j : Json) (k : String) (default : Json) : Except PyErr Json :=
  match j with
  | .obj kvs => .ok ((Dict.get? kvs k).getD default)
  | _ => .error .attributeError

/-- `j.get(k)`. -/
def get (j : Json) (k : String) : Except PyErr Json := j.getD k .null

/-- `for x in j`. A text yields its characters, a mapping its keys. -/
def elems : Json → Except PyErr (List Json)
  | .arr xs => .ok xs
  | .str s => .ok (s.toList.map fun c => .str (String.ofList [c]))
  | .obj kvs => .ok (kvs.map fun p => .str p.1)
  | _ => .error .typeError

/-- `j[0]`. -/
def head : Json → Except PyErr Json
  | .arr (x :: _) => .ok x
  | .arr [] => .error .keyError
  | .str s =>
    match s.toList with
    | c :: _ => .ok (.str (String.ofList [c]))
    | [] => .error .keyError
  | .obj _ => .error .keyError
  | _ => .error .typeError

/-- `int(j)`. -/
def toInt (U : Unicode) : Json → Except PyErr Int
  | .bool b => .ok (if b then 1 else 0)
  | .int n => .ok n
  | .float x => x.trunc
  | .str s => intOfStr U s
  | _ => .error .typeError

/-- `float(j)`. -/
def toFloat (U : Unicode) : Json → Except PyErr PyFloat
  | .bool b => .ok (.fin (if b then 1 else 0))
  | .int n => if |(n : ℚ)| < floatOverflow then .ok (.fin n) else .error .overflowError
  | .float x => .ok x
  | .str s => floatOfStr U s
  | _ => .error .typeError

/-- `len(j)`. -/
def len : Json → Except PyErr Nat
  | .str s => .ok s.length
  | .arr xs => .ok xs.length
  | .obj kvs => .ok kvs.length
  | _ => .error .typeError

mutual

/-- `json.dumps(j, allow_nan=False)` returns: no infinity and no NaN occurs in `j`. -/
def finite : Json → Bool
  | .float (.fin _) => true
  | .float _ => false
  | .arr xs => finiteElems xs
  | .obj kvs => finiteItems kvs
  | _ => true

def finiteElems : List Json → Bool
  | [] => true
  | x :: xs => finite x && finiteElems xs

def finiteItems : List (String × Json) → Bool
  | [] => true
  | (_, v) :: kvs => finite v && finiteItems kvs

end

mutual

/-- The two values are written alike. -/
def beq : Json → Json → Bool
  | .null, .null => true
  | .bool a, .bool b => decide (a = b)
  | .int a, .int b => decide (a = b)
  | .float a, .float b => decide (a = b)
  | .str a, .str b => decide (a = b)
  | .arr a, .arr b => beqElems a b
  | .obj a, .obj b => beqItems a b
  | _, _ => false

def beqElems : List Json → List Json → Bool
  | [], [] => true
  | x :: xs, y :: ys => beq x y && beqElems xs ys
  | _, _ => false

def beqItems : List (String × Json) → List (String × Json) → Bool
  | [], [] => true
  | (k, v) :: xs, (l, w) :: ys => decide (k = l) && beq v w && beqItems xs ys
  | _, _ => false

end

mutual

theorem eq_of_beq : ∀ {a b : Json}, beq a b = true → a = b
  | .null, .null, _ => rfl
  | .bool _, .bool _, h => congrArg Json.bool (of_decide_eq_true h)
  | .int _, .int _, h => congrArg Json.int (of_decide_eq_true h)
  | .float _, .float _, h => congrArg Json.float (of_decide_eq_true h)
  | .str _, .str _, h => congrArg Json.str (of_decide_eq_true h)
  | .arr _, .arr _, h => congrArg Json.arr (eq_of_beqElems h)
  | .obj _, .obj _, h => congrArg Json.obj (eq_of_beqItems h)

theorem eq_of_beqElems : ∀ {a b : List Json}, beqElems a b = true → a = b
  | [], [], _ => rfl
  | _ :: _, _ :: _, h => by
    simp only [beqElems, Bool.and_eq_true] at h
    rw [eq_of_beq h.1, eq_of_beqElems h.2]

theorem eq_of_beqItems : ∀ {a b : List (String × Json)}, beqItems a b = true → a = b
  | [], [], _ => rfl
  | (_, _) :: _, (_, _) :: _, h => by
    simp only [beqItems, Bool.and_eq_true, decide_eq_true_eq] at h
    rw [h.1.1, eq_of_beq h.1.2, eq_of_beqItems h.2]

end

@[simp] theorem get_obj (kvs : Obj) (k : String) : (Json.obj kvs).get k = .ok ((Dict.get? kvs k).getD .null) := rfl

@[simp] theorem getD_obj (kvs : Obj) (k : String) (d : Json) :
    (Json.obj kvs).getD k d = .ok ((Dict.get? kvs k).getD d) := rfl

@[simp] theorem orElse_of_truthy {j : Json} (o : Json) (h : j.truthy = true) : j.orElse o = j := by
  simp [orElse, h]

@[simp] theorem orElse_of_falsy {j : Json} (o : Json) (h : j.truthy = false) : j.orElse o = o := by
  simp [orElse, h]

end Json

end Py
