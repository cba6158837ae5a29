/-
`json.dumps`: a JSON value as text, in the layout of `json.dumps(x)` or in a compact one, and the round
trip through `json.loads`. What is written is read back as it was; what is read can be written again.
-/
import DioServe.Py.Loads
import Mathlib.Data.List.TakeWhile
import Mathlib.Data.Rat.Lemmas
import Mathlib.Tactic.FieldSimp
import Mathlib.Tactic.IntervalCases
import Mathlib.Tactic.Linarith

namespace Py

open Data

/-- The list is searched, not the type. -/
local instance (priority := 2000) decidableListed {p : Char → Prop} [DecidablePred p] (cs : List Char) :
    Decidable (∀ c ∈ cs, p c) := List.decidableBAll p cs

/-! ## Writing -/

/-- A layout of `json.dumps`: `ensure_ascii`, `allow_nan`, and the blanks after the separators. -/
structure Layout where
  ensureAscii : Bool
  allowNan : Bool
  pad : List Char
  blank : ∀ c ∈ pad, c = ' '

/-- `json.dumps(x)`. -/
def Layout.default : Layout := ⟨true, true, [' '], by decide⟩

/-- `json.dumps(x, ensure_ascii=False, allow_nan=False, separators=(",", ":"))`, as HTTP libraries write. -/
def Layout.compact : Layout := ⟨false, false, [], by decide⟩

namespace Dumps

/-- `'\\u{0:04x}'.format(n)`. -/
def unicode (n : Nat) : List Char :=
  ['\\', 'u', Nat.digitChar (n / 4096 % 16), Nat.digitChar (n / 256 % 16), Nat.digitChar (n / 16 % 16),
    Nat.digitChar (n % 16)]

/-- A character of a string literal. -/
def escape (ensureAscii : Bool) (c : Char) : List Char :=
  if c = '"' then ['\\', '"']
  else if c = '\\' then ['\\', '\\']
  else if c = '\n' then ['\\', 'n']
  else if c = '\r' then ['\\', 'r']
  else if c = '\t' then ['\\', 't']
  else if c = Char.ofNat 8 then ['\\', 'b']
  else if c = Char.ofNat 12 then ['\\', 'f']
  else if c.toNat < 0x20 ∨ (ensureAscii = true ∧ 0x7F ≤ c.toNat) then
    -- beyond the basic plane as a surrogate pair
    if c.toNat < 0x10000 then unicode c.toNat
    else unicode (0xD800 + (c.toNat - 0x10000) / 0x400) ++ unicode (0xDC00 + (c.toNat - 0x10000) % 0x400)
  else [c]

def string (l : Layout) (s : String) : List Char := '"' :: (s.toList.flatMap (escape l.ensureAscii) ++ ['"'])

def int (n : Int) : List Char := if n < 0 then '-' :: Nat.toDigits 10 n.natAbs else Nat.toDigits 10 n.natAbs

def float : PyFloat → List Char
  | .fin q => (reprRat q).toList
  | .inf false => "Infinity".toList
  | .inf true => "-Infinity".toList
  | .nan => "NaN".toList

mutual

def value (l : Layout) : Json → List Char
  | .null => "null".toList
  | .bool true => "true".toList
  | .bool false => "false".toList
  | .int n => int n
  | .float x => float x
  | .str s => string l s
  | .arr [] => ['[', ']']
  | .arr (x :: xs) => '[' :: (value l x ++ items l xs)
  | .obj [] => ['\x7b', '\x7d']
  | .obj ((k, v) :: kvs) => '\x7b' :: (string l k ++ ':' :: (l.pad ++ (value l v ++ members l kvs)))

/-- The items of an array after the first one, with the closing bracket. -/
def items (l : Layout) : List Json → List Char
  | [] => [']']
  | x :: xs => ',' :: (l.pad ++ (value l x ++ items l xs))

/-- The members of an object after the first one, with the closing brace. -/
def members (l : Layout) : List (String × Json) → List Char
  | [] => ['\x7d']
  | (k, v) :: kvs => ',' :: (l.pad ++ (string l k ++ ':' :: (l.pad ++ (value l v ++ members l kvs))))

end

section Equations

variable (l : Layout)

@[simp] theorem value_null : value l .null = "null".toList := rfl

@[simp] theorem value_bool (b : Bool) : value l (.bool b) = if b then "true".toList else "false".toList := by
  cases b <;> rfl

@[simp] theorem value_int (n : Int) : value l (.int n) = int n := rfl

@[simp] theorem value_float (x : PyFloat) : value l (.float x) = float x := rfl

@[simp] theorem value_str (s : String) : value l (.str s) = string l s := rfl

@[simp] theorem value_arr_nil : value l (.arr []) = ['[', ']'] := rfl

@[simp] theorem value_arr_cons (x : Json) (xs : List Json) :
    value l (.arr (x :: xs)) = '[' :: (value l x ++ items l xs) := rfl

@[simp] theorem value_obj_nil : value l (.obj []) = ['\x7b', '\x7d'] := rfl

@[simp] theorem value_obj_cons (k : String) (v : Json) (kvs : List (String × Json)) : value l (.obj ((k, v) :: kvs)) =
    '\x7b' :: (string l k ++ ':' :: (l.pad ++ (value l v ++ members l kvs))) := rfl

@[simp] theorem items_nil : items l [] = [']'] := rfl

@[simp] theorem items_cons (x : Json) (xs : List Json) :
    items l (x :: xs) = ',' :: (l.pad ++ (value l x ++ items l xs)) := rfl

@[simp] theorem members_nil : members l [] = ['\x7d'] := rfl

@[simp] theorem members_cons (k : String) (v : Json) (kvs : List (String × Json)) : members l ((k, v) :: kvs) =
    ',' :: (l.pad ++ (string l k ++ ':' :: (l.pad ++ (value l v ++ members l kvs)))) := rfl

end Equations

/-- The interpreter converts an integer of at most so many digits to a text. -/
def maxDigits : Nat := 4300

mutual

/-- Nothing in the value raises a `ValueError`: no integer is too long, and no float is none of JSON. -/
def encodable (l : Layout) : Json → Bool
  | .int n => decide ((Nat.toDigits 10 n.natAbs).length ≤ maxDigits)
  | .float (.fin _) => true
  | .float _ => l.allowNan
  | .arr xs => encodableItems l xs
  | .obj kvs => encodableMembers l kvs
  | _ => true

def encodableItems (l : Layout) : List Json → Bool
  | [] => true
  | x :: xs => encodable l x && encodableItems l xs

def encodableMembers (l : Layout) : List (String × Json) → Bool
  | [] => true
  | (_, v) :: kvs => encodable l v && encodableMembers l kvs

end

end Dumps

/-- `json.dumps(j)`. -/
def dumps (l : Layout) (j : Json) : Except PyErr String :=
  if Dumps.encodable l j then .ok (String.ofList (Dumps.value l j)) else .error .valueError

/-! ## Reading a string literal -/

namespace Loads

theorem hexVal_digitChar : ∀ {d : Nat}, d < 16 → hexVal (Nat.digitChar d) = some d := by decide

/-- Four digits are read back. -/
theorem hex4_digits {n : Nat} (h : n < 0x10000) (r : List Char) :
    hex4 (Nat.digitChar (n / 4096 % 16) :: Nat.digitChar (n / 256 % 16) :: Nat.digitChar (n / 16 % 16) ::
      Nat.digitChar (n % 16) :: r) = some (n, r) := by
  have hdigit : ∀ m, hexVal (Nat.digitChar (m % 16)) = some (m % 16) := fun m => hexVal_digitChar (Nat.mod_lt _ (by decide))
  have hn : ((n / 4096 % 16 * 16 + n / 256 % 16) * 16 + n / 16 % 16) * 16 + n % 16 = n := by omega
  simp only [hex4, hdigit, Option.bind_eq_bind, Option.bind_some, Option.pure_def, hn]

/-- An escape of one unit reads as its character. -/
theorem unicodeEscape_unit {c : Char} (h : c.toNat < 0x10000) (r : List Char) :
    unicodeEscape ((Dumps.unicode c.toNat).drop 2 ++ r) = some (c, r) := by
  have hnot : ¬ (0xD800 ≤ c.toNat ∧ c.toNat ≤ 0xDBFF) ∧ ¬ (0xDC00 ≤ c.toNat ∧ c.toNat ≤ 0xDFFF) := by
    have hvalid := c.valid
    have hval : c.toNat = c.val.toNat := rfl
    simp only [UInt32.isValidChar, Nat.isValidChar] at hvalid
    omega
  show unicodeEscape (_ :: _ :: _ :: _ :: r) = _
  unfold unicodeEscape
  rw [hex4_digits h]
  simp only [Option.bind_eq_bind, Option.bind_some, Option.pure_def, if_neg hnot.1, if_neg hnot.2, Char.ofNat_toNat]

/-- A surrogate pair reads as one character. -/
theorem unicodeEscape_pair {n m : Nat} (hn : 0xD800 ≤ n ∧ n ≤ 0xDBFF) (hm : 0xDC00 ≤ m ∧ m ≤ 0xDFFF) (r : List Char) :
    unicodeEscape ((Dumps.unicode n).drop 2 ++ (Dumps.unicode m ++ r)) =
      some (Char.ofNat (0x10000 + (n - 0xD800) * 0x400 + (m - 0xDC00)), r) := by
  have hexpect : expect ['\\', 'u'] (Dumps.unicode m ++ r) = some ((Dumps.unicode m).drop 2 ++ r) := rfl
  have hlow : hex4 ((Dumps.unicode m).drop 2 ++ r) = some (m, r) := hex4_digits (by omega) r
  have hhigh : hex4 ((Dumps.unicode n).drop 2 ++ (Dumps.unicode m ++ r)) = some (n, Dumps.unicode m ++ r) :=
    hex4_digits (by omega) _
  unfold unicodeEscape
  simp only [hhigh, Option.bind_eq_bind, Option.bind_some, if_pos hn, hexpect, hlow, if_pos hm, Option.pure_def]

/-- The pair written for a character is that character. -/
theorem ofNat_pair {c : Char} (h : 0x10000 ≤ c.toNat) : ∀ {n m : Nat}, n = 0xD800 + (c.toNat - 0x10000) / 0x400 →
    m = 0xDC00 + (c.toNat - 0x10000) % 0x400 → (0xD800 ≤ n ∧ n ≤ 0xDBFF) ∧ (0xDC00 ≤ m ∧ m ≤ 0xDFFF) ∧
      Char.ofNat (0x10000 + (n - 0xD800) * 0x400 + (m - 0xDC00)) = c := by
  have hmax : c.toNat < 0x110000 := by
    have hvalid := c.valid
    have hval : c.toNat = c.val.toNat := rfl
    simp only [UInt32.isValidChar, Nat.isValidChar] at hvalid
    omega
  intro n m hn hm
  have hcode : 0x10000 + (n - 0xD800) * 0x400 + (m - 0xDC00) = c.toNat := by omega
  rw [hcode, Char.ofNat_toNat]
  exact ⟨by omega, by omega, rfl⟩

/-- One written character is read back. -/
theorem string_escape (b : Bool) (c : Char) (fuel : Nat) (acc r : List Char) :
    string (fuel + 1) acc (Dumps.escape b c ++ r) = string fuel (c :: acc) r := by
  unfold Dumps.escape
  split_ifs with h1 h2 h3 h4 h5 h6 h7 h8 h9
  · subst h1; rfl
  · subst h2; rfl
  · subst h3; rfl
  · subst h4; rfl
  · subst h5; rfl
  · subst h6; rfl
  · subst h7; rfl
  · show (unicodeEscape ((Dumps.unicode c.toNat).drop 2 ++ r)).bind (fun p => string fuel (p.1 :: acc) p.2) = _
    rw [unicodeEscape_unit h9]
    rfl
  · obtain ⟨hhigh, hlow, hchar⟩ := ofNat_pair (Nat.le_of_not_lt h9) rfl rfl
    have hread := unicodeEscape_pair hhigh hlow r
    rw [hchar] at hread
    generalize 0xD800 + (c.toNat - 0x10000) / 0x400 = n at hread
    generalize 0xDC00 + (c.toNat - 0x10000) % 0x400 = m at hread
    rw [List.append_assoc]
    show (unicodeEscape ((Dumps.unicode n).drop 2 ++ (Dumps.unicode m ++ r))).bind
      (fun p => string fuel (p.1 :: acc) p.2) = _
    rw [hread]
    rfl
  · have hplain : ¬ (c.toNat < 0x20 ∨ c = '\\') := by
      rintro (hlt | heq)
      · exact h8 (.inl hlt)
      · exact h2 heq
    rw [List.singleton_append, string]
    · exact if_neg hplain
    · exact h1
    · intro _ hc
      exact absurd hc h2
    · intro _ _ hc
      exact absurd hc h2

/-- The characters of a string literal are read back. -/
theorem string_written (b : Bool) (r : List Char) : ∀ (cs acc : List Char) (fuel : Nat), cs.length < fuel →
    string fuel acc (cs.flatMap (Dumps.escape b) ++ '"' :: r) = some (String.ofList (acc.reverse ++ cs), r)
  | [], acc, fuel + 1, _ => by
    rw [List.append_nil]
    rfl
  | c :: cs, acc, fuel + 1, h => by
    have hlt : cs.length < fuel := Nat.lt_of_succ_lt_succ h
    rw [List.flatMap_cons, List.append_assoc, string_escape, string_written b r cs (c :: acc) fuel hlt]
    simp

theorem length_le_flatMap_escape (b : Bool) : ∀ cs : List Char, cs.length ≤ (cs.flatMap (Dumps.escape b)).length
  | [] => Nat.le_refl 0
  | c :: cs => by
    have ih := length_le_flatMap_escape b cs
    have hone : 1 ≤ (Dumps.escape b c).length := by
      unfold Dumps.escape
      split_ifs <;> simp [Dumps.unicode]
    rw [List.flatMap_cons, List.length_append, List.length_cons]
    omega

/-- A string literal is read back, whatever follows it. -/
theorem string_dumps (l : Layout) (s : String) (r : List Char) :
    ∃ cs, Dumps.string l s ++ r = '"' :: cs ∧ string (cs.length + 1) [] cs = some (s, r) := by
  refine ⟨s.toList.flatMap (Dumps.escape l.ensureAscii) ++ '"' :: r, by simp [Dumps.string], ?_⟩
  have hlen := length_le_flatMap_escape l.ensureAscii s.toList
  have hread := string_written l.ensureAscii r s.toList []
    ((s.toList.flatMap (Dumps.escape l.ensureAscii) ++ '"' :: r).length + 1) (by
      rw [List.length_append]
      omega)
  rw [hread, List.reverse_nil, List.nil_append, String.ofList_toList]

/-! ## Reading a number -/

theorem isDigit_iff {c : Char} : c.isDigit = true ↔ '0' ≤ c ∧ c ≤ '9' := by
  simp only [Char.isDigit, Bool.and_eq_true, decide_eq_true_eq, ge_iff_le]
  exact Iff.rfl

/-- A run of digits, read up to what comes after it. -/
theorem digits_run {r : List Char} (hr : ∀ c ∈ r.head?, c.isDigit = false) {ds : List Char}
    (hds : ∀ c ∈ ds, c.isDigit = true) : digits (ds ++ r) = (ds, r) := by
  have hfun : (fun c : Char => decide ('0' ≤ c ∧ c ≤ '9')) = Char.isDigit := by
    funext c
    rw [Bool.eq_iff_iff, decide_eq_true_eq, isDigit_iff]
  have hstop : r.takeWhile Char.isDigit = [] ∧ r.dropWhile Char.isDigit = r := by
    cases r with
    | nil => exact ⟨rfl, rfl⟩
    | cons c r =>
      have hc := hr c rfl
      exact ⟨by rw [List.takeWhile_cons, if_neg (by simp [hc])], dropWhile_of_head hr⟩
  unfold digits
  rw [hfun, List.span_eq_takeWhile_dropWhile, List.takeWhile_append_of_pos hds, List.dropWhile_append_of_pos hds,
    hstop.1, hstop.2, List.append_nil]

theorem natOf_eq (ds : List Char) : natOf ds = Nat.ofDigitChars 10 ds 0 := by
  rw [Nat.ofDigitChars_eq_foldl, natOf]
  simp only [Nat.mul_comm]

theorem fraction_run {r : List Char} (hr : ∀ c ∈ r.head?, c.isDigit = false) {ds : List Char}
    (hds : ∀ c ∈ ds, c.isDigit = true) (hne : ds ≠ []) : fraction ('.' :: (ds ++ r)) = some (ds, r) := by
  simp [fraction, digits_run hr hds, hne]

theorem fraction_none {r : List Char} (hr : ∀ c ∈ r.head?, c ≠ '.') : fraction r = none := by
  unfold fraction
  split
  · exact absurd rfl (hr _ rfl)
  · rfl

theorem exponent_run {r : List Char} (hr : ∀ c ∈ r.head?, c.isDigit = false) (neg : Bool) {ds : List Char}
    (hds : ∀ c ∈ ds, c.isDigit = true) (hne : ds ≠ []) : exponent ('e' :: (if neg then '-' else '+') :: (ds ++ r)) =
      some (if neg then -(Nat.ofDigitChars 10 ds 0 : Int) else Nat.ofDigitChars 10 ds 0, r) := by
  cases neg <;> simp [exponent, readSign, digits_run hr hds, hne, natOf_eq]

theorem exponent_none {r : List Char} (hr : ∀ c ∈ r.head?, c ≠ 'e' ∧ c ≠ 'E') : exponent r = none := by
  unfold exponent
  split
  · exact if_neg (not_or.2 (hr _ rfl))
  · rfl

/-- A number literal after its sign and its whole part. -/
def numberTail (neg : Bool) (whole cs : List Char) : Option (Json × List Char) :=
  let frac := fraction cs
  let cs := (frac.map Prod.snd).getD cs
  let exp := exponent cs
  let cs := (exp.map Prod.snd).getD cs
  if frac.isNone ∧ exp.isNone then
    if whole.length > 4300 then none else some (.int (if neg then -(natOf whole : Int) else natOf whole), cs)
  else
    let places := (frac.map Prod.fst).getD []
    some (.float (ofDecimal neg (natOf (whole ++ places)) ((exp.map Prod.fst).getD 0 - places.length)), cs)

/-- A number literal after its sign. -/
def unsigned (neg : Bool) (cs : List Char) : Option (Json × List Char) :=
  match cs with
  | [] => none
  | d :: rest =>
    let (whole, cs') := if d = '0' then (['0'], rest) else digits cs
    if whole = [] then none else numberTail neg whole cs'

theorem number_minus (cs : List Char) : number ('-' :: cs) = unsigned true cs := by
  cases cs <;> rfl

theorem number_unsigned {cs : List Char} (h : cs.head? ≠ some '-') : number cs = unsigned false cs := by
  unfold number
  split
  rename_i x neg cs' hsplit
  split at hsplit
  · exact absurd rfl h
  · cases hsplit
    cases cs <;> rfl

/-- The whole part of a number: digits, without a leading zero unless it is zero. -/
structure Whole (ws : List Char) : Prop where
  digits : ∀ c ∈ ws, c.isDigit = true
  ne_nil : ws ≠ []
  zero : ws.head? = some '0' → ws = ['0']

def sign (neg : Bool) : List Char := if neg then ['-'] else []

/-- Reading a number goes on after its sign and its whole part. -/
theorem number_whole (neg : Bool) {ws cs : List Char} (hws : Whole ws) (hcs : ∀ c ∈ cs.head?, c.isDigit = false) :
    number (sign neg ++ (ws ++ cs)) = numberTail neg ws cs := by
  obtain ⟨d, rest, rfl⟩ := List.exists_cons_of_ne_nil hws.ne_nil
  have hunsigned : unsigned neg (d :: (rest ++ cs)) = numberTail neg (d :: rest) cs := by
    unfold unsigned
    dsimp only
    by_cases hd : d = '0'
    · subst hd
      have hrest : rest = [] := (List.cons_eq_cons.1 (hws.zero rfl)).2
      subst hrest
      rfl
    · rw [if_neg hd, ← List.cons_append, digits_run hcs hws.digits]
      exact if_neg (List.cons_ne_nil _ _)
  rw [← hunsigned]
  cases neg with
  | true => exact number_minus _
  | false =>
    apply number_unsigned
    rintro ⟨⟩
    exact absurd (hws.digits '-' (List.mem_cons_self ..)) (by decide)

/-! ### Integers -/

theorem digits_toDigits (n : Nat) : ∀ c ∈ Nat.toDigits 10 n, c.isDigit = true :=
  fun _ hc => Nat.isDigit_of_mem_toDigits (by decide) (by decide) hc

theorem head_toDigits : ∀ n : Nat, 0 < n → (Nat.toDigits 10 n).head? ≠ some '0' := by
  intro n
  induction n using Nat.strongRecOn with
  | ind n ih =>
    intro hn
    by_cases hlt : n < 10
    · rw [Nat.toDigits_of_lt_base hlt]
      interval_cases n <;> decide
    · have hfirst := ih (n / 10) (by omega) (by omega)
      rw [Nat.toDigits_of_base_le (by decide) (by omega), List.head?_append_of_ne_nil _ Nat.toDigits_ne_nil]
      exact hfirst

theorem whole_toDigits (n : Nat) : Whole (Nat.toDigits 10 n) where
  digits := digits_toDigits n
  ne_nil := Nat.toDigits_ne_nil
  zero h := by
    rcases Nat.eq_zero_or_pos n with rfl | hpos
    · exact Nat.toDigits_zero 10
    · exact absurd h (head_toDigits n hpos)

/-- What may follow a number. -/
def Stops (r : List Char) : Prop := ∀ c ∈ r.head?, c.isDigit = false ∧ c ≠ '.' ∧ c ≠ 'e' ∧ c ≠ 'E'

theorem Stops.noDigit {r : List Char} (h : Stops r) : ∀ c ∈ r.head?, c.isDigit = false := fun c hc => (h c hc).1

theorem Stops.noExponent {r : List Char} (h : Stops r) : exponent r = none :=
  exponent_none fun c hc => (h c hc).2.2

theorem int_eq (n : Int) : Dumps.int n = sign (decide (n < 0)) ++ Nat.toDigits 10 n.natAbs := by
  unfold Dumps.int sign
  split <;> simp_all

theorem number_int {n : Int} (hn : (Nat.toDigits 10 n.natAbs).length ≤ Dumps.maxDigits) {r : List Char} (hr : Stops r) :
    number (Dumps.int n ++ r) = some (.int n, r) := by
  have hsign : (if decide (n < 0) = true then -((n.natAbs : Nat) : Int) else (n.natAbs : Int)) = n := by
    simp only [decide_eq_true_eq]
    split <;> omega
  rw [int_eq, List.append_assoc, number_whole _ (whole_toDigits _) hr.noDigit, numberTail,
    fraction_none fun c hc => (hr c hc).2.1]
  simp only [Option.map_none, Option.getD_none, hr.noExponent, Option.isNone_none, and_self, if_true, natOf_eq,
    Nat.ofDigitChars_ten_toDigits, hsign]
  exact if_neg (Nat.not_lt.2 hn)

/-! ### Floats -/

/-- A float its text names: a decimal fraction, neither too large nor too small for one. -/
def Named (q : ℚ) : Prop := (∃ k ≤ 400, 10 ^ k % q.den = 0) ∧ |q| < floatOverflow ∧ (q ≠ 0 → 1 / 10 ^ 330 ≤ |q|)

theorem decimalPlaces_spec (q : ℚ) : ∀ fuel k K : Nat, k ≤ K → K ≤ k + fuel → 10 ^ K % q.den = 0 →
    10 ^ decimalPlaces q fuel k % q.den = 0
  | 0, k, K, hk, hK, h => by
    have heq : K = k := by omega
    rw [← heq]
    exact h
  | fuel + 1, k, K, hk, hK, h => by
    unfold decimalPlaces
    split
    · assumption
    · rename_i hno
      have hne : k ≠ K := fun heq => hno (heq ▸ h)
      exact decimalPlaces_spec q fuel (k + 1) K (by omega) (by omega) h

/-- The digits written for a float. -/
theorem exists_mantissa {q : ℚ} {k : Nat} (h : 10 ^ k % q.den = 0) :
    ((⌊|q| * 10 ^ k⌋.toNat : Nat) : ℚ) = |q| * 10 ^ k := by
  obtain ⟨m, hm⟩ := Nat.dvd_of_mod_eq_zero h
  have hden : (q.den : ℚ) ≠ 0 := Nat.cast_ne_zero.2 q.den_nz
  have hint : |q| * 10 ^ k = ((q.num.natAbs * m : Nat) : ℚ) := by
    have habs : |q| = (q.num.natAbs : ℚ) / q.den := by
      rw [Rat.abs_def, Rat.divInt_eq_div, Int.cast_natCast, Int.cast_natCast]
    have hpow : (10 : ℚ) ^ k = q.den * m := by exact_mod_cast hm
    rw [habs, hpow]
    push_cast
    field_simp
  rw [hint, Int.floor_natCast, Int.toNat_natCast]

theorem floatOverflow_lt : floatOverflow < 10 ^ 309 := by
  have hpow : (2 : ℚ) ^ 1024 < 10 ^ 309 := by exact_mod_cast (by decide +kernel : (2 : Nat) ^ 1024 < 10 ^ 309)
  exact (sub_le_self _ (by positivity)).trans_lt hpow

/-- A decimal of the right magnitude is the float it names. -/
theorem ofDecimal_named {q : ℚ} (hq : Named q) (h0 : q ≠ 0) {m : Nat} {e : Int} (hm : (m : ℚ) * 10 ^ e = |q|) :
    ofDecimal (decide (q < 0)) m e = .fin q := by
  have hpos : 0 < |q| := abs_pos.2 h0
  have hm0 : m ≠ 0 := by
    rintro rfl
    rw [Nat.cast_zero, zero_mul] at hm
    exact hpos.ne hm
  have hlen : 1 ≤ (Nat.toDigits 10 m).length := Nat.length_toDigits_pos
  generalize hL : (Nat.toDigits 10 m).length = L at hlen
  have hlt : m < 10 ^ L := (Nat.length_toDigits_le_iff (by decide) hlen).1 hL.le
  have hge : 10 ^ (L - 1) ≤ m := by
    rcases Nat.lt_or_ge 1 L with h1 | h1
    · by_contra hno
      have hle : (Nat.toDigits 10 m).length ≤ L - 1 :=
        (Nat.length_toDigits_le_iff (by decide) (by omega)).2 (Nat.lt_of_not_le hno)
      omega
    · rw [show L - 1 = 0 by omega, Nat.pow_zero]
      exact Nat.pos_of_ne_zero hm0
  have hten : (0 : ℚ) < 10 ^ e := zpow_pos (by norm_num) e
  have hbig : ¬ (L : Int) + e > 310 := by
    intro hno
    have hpow : (10 : ℚ) ^ (309 : Int) ≤ 10 ^ ((L - 1 : Nat) + e : Int) :=
      zpow_le_zpow_right₀ (by norm_num) (by omega)
    have hle : (10 : ℚ) ^ ((L - 1 : Nat) + e : Int) ≤ |q| := by
      rw [zpow_add₀ (by norm_num), zpow_natCast, ← hm]
      gcongr
      exact_mod_cast hge
    have hmax : |q| < (10 : ℚ) ^ (309 : Int) := by
      rw [show (309 : Int) = ((309 : Nat) : Int) from rfl, zpow_natCast]
      exact hq.2.1.trans floatOverflow_lt
    exact absurd (hpow.trans hle) (not_le.2 hmax)
  have hsmall : ¬ (L : Int) + e < -330 := by
    intro hno
    have hup : |q| < (10 : ℚ) ^ ((L : Nat) + e : Int) := by
      rw [zpow_add₀ (by norm_num), zpow_natCast, ← hm]
      gcongr
      exact_mod_cast hlt
    have hpow : (10 : ℚ) ^ ((L : Nat) + e : Int) ≤ 10 ^ (-330 : Int) := zpow_le_zpow_right₀ (by norm_num) (by omega)
    have hmin := hq.2.2 h0
    rw [one_div, ← zpow_natCast, ← zpow_neg] at hmin
    exact absurd (hmin.trans_lt hup) (not_lt.2 hpow)
  unfold ofDecimal
  rw [if_neg hm0, hL, if_neg hbig, if_neg hsmall]
  dsimp only
  rw [hm, if_neg (not_le.2 hq.2.1)]
  by_cases hneg : q < 0
  · rw [if_pos (decide_eq_true hneg), abs_of_neg hneg, neg_neg]
  · rw [if_neg (by simpa using hneg), abs_of_nonneg (not_lt.1 hneg)]

/-- The digits with the decimal point before the last `k`. -/
def positional (k : Nat) (ds : List Char) : List Char :=
  if ds.length ≤ k then '0' :: '.' :: (List.replicate (k - ds.length) '0' ++ ds)
  else if k = 0 then ds ++ ['.', '0']
  else ds.take (ds.length - k) ++ '.' :: ds.drop (ds.length - k)

/-- An exponent of at least two digits. -/
def exponentDigits (n : Nat) : List Char :=
  if (Nat.toDigits 10 n).length < 2 then '0' :: Nat.toDigits 10 n else Nat.toDigits 10 n

/-- The digits without the zeros at the end. -/
def trimmed (ds : List Char) : List Char := (ds.reverse.dropWhile (· = '0')).reverse

/-- The digits with the decimal point after the first. -/
def pointed : List Char → List Char
  | [] => ['0']
  | [d] => [d]
  | d :: ds => d :: '.' :: ds

/-- The significant digits and the exponent of the first. -/
def scientific (e : Int) (ds : List Char) : List Char :=
  pointed (trimmed ds) ++ 'e' :: (if decide (e < 0) then '-' else '+') :: exponentDigits e.natAbs

/-- The text of a float that is not zero. -/
theorem toList_reprRat {q : ℚ} (h0 : q ≠ 0) {k : Nat} {ds : List Char} (hk : decimalPlaces q 400 0 = k)
    (hds : Nat.toDigits 10 ⌊|q| * 10 ^ k⌋.toNat = ds) : (reprRat q).toList = sign (decide (q < 0)) ++
      if -4 < (ds.length : Int) - k ∧ (ds.length : Int) - k ≤ 16 then positional k ds
      else scientific ((ds.length : Int) - k - 1) ds := by
  have hsign : ∀ body : String, (if q < 0 then "-" ++ body else body).toList = sign (decide (q < 0)) ++ body.toList := by
    intro body
    by_cases hneg : q < 0 <;> simp [sign, hneg]
  unfold reprRat
  rw [hk]
  dsimp only
  rw [hds, hsign, if_neg h0]
  congr 1
  split
  · unfold positional
    split
    · have hle : ds.length ≤ k := by omega
      have hzeros : (-((ds.length : Int) - k)).toNat = k - ds.length := by omega
      rw [if_pos hle, hzeros]
      simp
    · have hgt : ¬ ds.length ≤ k := by omega
      rw [if_neg hgt]
      split
      · have hk0 : k = 0 := by omega
        subst hk0
        simp
      · have hk0 : k ≠ 0 := by omega
        have hwhole : ((ds.length : Int) - k).toNat = ds.length - k := by omega
        rw [if_neg hk0, hwhole]
        simp
  · unfold scientific exponentDigits
    generalize (ds.length : Int) - k - 1 = e
    have hlen : (toString e.natAbs).length = (Nat.toDigits 10 e.natAbs).length := by
      rw [Nat.toString_eq_ofList_toDigits, String.length_ofList]
    have hkept : (ds.reverse.dropWhile (· = '0')).reverse = trimmed ds := rfl
    rw [hlen, hkept]
    have hexponent : ∀ mant : String, (mant ++ (if e < 0 then "e-" else "e+") ++
        (if (Nat.toDigits 10 e.natAbs).length < 2 then "0" ++ toString e.natAbs else toString e.natAbs)).toList =
          mant.toList ++ 'e' :: (if decide (e < 0) then '-' else '+') ::
            (if (Nat.toDigits 10 e.natAbs).length < 2 then '0' :: Nat.toDigits 10 e.natAbs
              else Nat.toDigits 10 e.natAbs) := by
      intro mant
      by_cases hexp : e < 0 <;> by_cases hlong : (Nat.toDigits 10 e.natAbs).length < 2 <;>
        simp [hexp, hlong]
    rw [hexponent]
    rcases trimmed ds with _ | ⟨d, _ | ⟨d', ds'⟩⟩ <;> simp [pointed]

/-- A number with a fraction. -/
theorem number_fraction (neg : Bool) {ws : List Char} (hws : Whole ws) {fs : List Char}
    (hfs : ∀ c ∈ fs, c.isDigit = true) (hne : fs ≠ []) {r : List Char} (hr : Stops r) : number (sign neg ++ (ws ++ '.' :: (fs ++ r))) =
      some (.float (ofDecimal neg (Nat.ofDigitChars 10 (ws ++ fs) 0) (-fs.length)), r) := by
  have hpoint : ∀ c ∈ ('.' :: (fs ++ r)).head?, c.isDigit = false := by
    rintro c ⟨⟩
    rfl
  rw [number_whole neg hws hpoint, numberTail, fraction_run hr.noDigit hfs hne]
  simp [hr.noExponent, natOf_eq]

/-- The point and the digits after it, where there are some. -/
def point (fs : List Char) : List Char := if fs = [] then [] else '.' :: fs

/-- A number with an exponent. -/
theorem number_exponent (neg : Bool) {ws fs r : List Char} (hws : Whole ws) (hfs : ∀ c ∈ fs, c.isDigit = true)
    (hr : Stops r) (e : Int) : number (sign neg ++ (ws ++ (point fs ++
        'e' :: (if decide (e < 0) then '-' else '+') :: (exponentDigits e.natAbs ++ r)))) =
      some (.float (ofDecimal neg (Nat.ofDigitChars 10 (ws ++ fs) 0) (e - fs.length)), r) := by
  have hexp : exponent ('e' :: (if decide (e < 0) then '-' else '+') :: (exponentDigits e.natAbs ++ r)) = some (e, r) := by
    have hdigits : ∀ c ∈ exponentDigits e.natAbs, c.isDigit = true := by
      unfold exponentDigits
      split
      · exact List.forall_mem_cons.2 ⟨rfl, digits_toDigits _⟩
      · exact digits_toDigits _
    have hvalue : Nat.ofDigitChars 10 (exponentDigits e.natAbs) 0 = e.natAbs := by
      unfold exponentDigits
      split <;> simp [Nat.ofDigitChars_cons]
    have hne : exponentDigits e.natAbs ≠ [] := by
      unfold exponentDigits
      split
      · exact List.cons_ne_nil _ _
      · exact Nat.toDigits_ne_nil
    have hsign : (if decide (e < 0) = true then -((e.natAbs : Nat) : Int) else (e.natAbs : Int)) = e := by
      simp only [decide_eq_true_eq]
      split <;> omega
    rw [exponent_run hr.noDigit (decide (e < 0)) hdigits hne, hvalue, hsign]
  by_cases hfs0 : fs = []
  · subst hfs0
    have hletter : ∀ c ∈ ('e' :: (if decide (e < 0) then '-' else '+') :: (exponentDigits e.natAbs ++ r)).head?,
        c.isDigit = false ∧ c ≠ '.' := by
      rintro c ⟨⟩
      exact ⟨rfl, by decide⟩
    rw [point, if_pos rfl, List.nil_append]
    generalize 'e' :: (if decide (e < 0) then '-' else '+') :: (exponentDigits e.natAbs ++ r) = cs at hexp hletter
    rw [number_whole neg hws fun c hc => (hletter c hc).1, numberTail, fraction_none fun c hc => (hletter c hc).2]
    simp [hexp, natOf_eq]
  · have hletter : ∀ c ∈ ('e' :: (if decide (e < 0) then '-' else '+') :: (exponentDigits e.natAbs ++ r)).head?,
        c.isDigit = false := by
      rintro c ⟨⟩
      rfl
    generalize 'e' :: (if decide (e < 0) then '-' else '+') :: (exponentDigits e.natAbs ++ r) = cs at hexp hletter
    have hpoint : ∀ c ∈ ('.' :: (fs ++ cs)).head?, c.isDigit = false := by
      rintro c ⟨⟩
      rfl
    rw [point, if_neg hfs0, List.cons_append, number_whole neg hws hpoint, numberTail, fraction_run hletter hfs hfs0]
    simp [hexp, natOf_eq]

/-- The digits of a positive number: the first is not zero. -/
theorem whole_of_head {ds : List Char} (hds : ∀ c ∈ ds, c.isDigit = true) (hne : ds ≠ []) (hhead : ds.head? ≠ some '0') :
    Whole ds := ⟨hds, hne, fun h => absurd h hhead⟩

theorem number_positional {neg : Bool} {a k : Nat} (ha : 0 < a) {r : List Char} (hr : Stops r) :
    ∃ m : Nat, ∃ e : Int, (m : ℚ) * 10 ^ e = a * 10 ^ (-k : Int) ∧
      number (sign neg ++ (positional k (Nat.toDigits 10 a) ++ r)) = some (.float (ofDecimal neg m e), r) := by
  have hten : (10 : ℚ) ≠ 0 := by norm_num
  have hdigits := digits_toDigits a
  have hvalue : Nat.ofDigitChars 10 (Nat.toDigits 10 a) 0 = a := Nat.ofDigitChars_ten_toDigits
  have hwhole := whole_toDigits a
  have hhead := head_toDigits a ha
  generalize Nat.toDigits 10 a = ds at hdigits hvalue hwhole hhead
  unfold positional
  split
  · rename_i hle
    have hzero : Whole ['0'] := ⟨by decide, by decide, fun _ => rfl⟩
    have hfs : ∀ c ∈ List.replicate (k - ds.length) '0' ++ ds, c.isDigit = true := by
      intro c hc
      rcases List.mem_append.1 hc with hc | hc
      · rw [List.eq_of_mem_replicate hc]
        rfl
      · exact hdigits c hc
    refine ⟨a, -k, rfl, ?_⟩
    have hread := number_fraction neg hzero hfs (by simp [hwhole.ne_nil]) hr
    rw [List.length_append, List.length_replicate, show k - ds.length + ds.length = k by omega] at hread
    simpa [Nat.ofDigitChars_append, Nat.ofDigitChars_cons, hvalue] using hread
  · rename_i hgt
    split
    · rename_i hk
      subst hk
      refine ⟨10 * a, -1, ?_, ?_⟩
      · push_cast
        rw [zpow_neg_one]
        simp
        ring
      · have hread := @number_fraction neg _ hwhole ['0'] (by decide) (by decide) _ hr
        simpa [Nat.ofDigitChars_append, Nat.ofDigitChars_cons, hvalue] using hread
    · rename_i hk
      have hfs : ds.drop (ds.length - k) ≠ [] := by
        rw [ne_eq, List.drop_eq_nil_iff]
        omega
      have hws : Whole (ds.take (ds.length - k)) := by
        refine whole_of_head (fun c hc => hdigits c (List.mem_of_mem_take hc)) ?_ ?_
        · rw [ne_eq, List.take_eq_nil_iff, not_or]
          exact ⟨by omega, hwhole.ne_nil⟩
        · rw [List.head?_take, if_neg (by omega)]
          exact hhead
      have hread := number_fraction neg hws (fun c hc => hdigits c (List.mem_of_mem_drop hc)) hfs hr
      rw [List.take_append_drop, hvalue, List.length_drop, show ds.length - (ds.length - k) = k by omega] at hread
      refine ⟨a, -k, rfl, ?_⟩
      simpa using hread

/-- The digits are those that count, and zeros. -/
theorem trimmed_append (ds : List Char) : ∃ z, ds = trimmed ds ++ List.replicate z '0' := by
  let zero : Char → Bool := fun c => c = '0'
  have hsplit : ds.reverse.takeWhile zero ++ ds.reverse.dropWhile zero = ds.reverse := List.takeWhile_append_dropWhile
  have hzeros : ds.reverse.takeWhile zero = List.replicate (ds.reverse.takeWhile zero).length '0' :=
    List.eq_replicate_of_mem fun c hc => of_decide_eq_true (List.mem_takeWhile_imp (p := zero) hc)
  refine ⟨(ds.reverse.takeWhile zero).length, ?_⟩
  have hrev := congrArg List.reverse hsplit
  rw [List.reverse_reverse, List.reverse_append, hzeros, List.reverse_replicate] at hrev
  exact hrev.symm

theorem number_scientific {neg : Bool} {a k : Nat} (ha : 0 < a) {r : List Char} (hr : Stops r) :
    ∃ m : Nat, ∃ e : Int, (m : ℚ) * 10 ^ e = a * 10 ^ (-k : Int) ∧
      number (sign neg ++ (scientific ((Nat.toDigits 10 a).length - k - 1) (Nat.toDigits 10 a) ++ r)) =
        some (.float (ofDecimal neg m e), r) := by
  have hdigits := digits_toDigits a
  have hvalue : Nat.ofDigitChars 10 (Nat.toDigits 10 a) 0 = a := Nat.ofDigitChars_ten_toDigits
  have hne : Nat.toDigits 10 a ≠ [] := Nat.toDigits_ne_nil
  have hhead := head_toDigits a ha
  generalize Nat.toDigits 10 a = ds at hdigits hvalue hhead hne
  obtain ⟨z, hz⟩ := trimmed_append ds
  unfold scientific
  generalize trimmed ds = kept at hz
  subst hz
  cases kept with
  | nil =>
    -- only zeros
    cases z with
    | zero => exact absurd rfl hne
    | succ z => exact absurd rfl hhead
  | cons d fs =>
    have hws : Whole [d] := by
      refine whole_of_head (fun c hc => hdigits c ?_) (List.cons_ne_nil _ _) hhead
      rw [List.mem_singleton.1 hc]
      exact List.mem_cons_self ..
    have hfs : ∀ c ∈ fs, c.isDigit = true := fun c hc =>
      hdigits c (List.mem_append_left _ (List.mem_cons_of_mem _ hc))
    have hread := number_exponent neg hws hfs hr ((((d :: fs) ++ List.replicate z '0').length : Int) - k - 1)
    rw [Nat.ofDigitChars_append, Nat.ofDigitChars_replicate_zero] at hvalue
    refine ⟨Nat.ofDigitChars 10 (d :: fs) 0, z - k, ?_, ?_⟩
    · rw [← hvalue]
      push_cast
      rw [sub_eq_add_neg, zpow_add₀ (by norm_num), zpow_natCast]
      ring
    · have hplaces : (((d :: fs) ++ List.replicate z '0').length : Int) - k - 1 - fs.length = z - k := by
        simp only [List.length_append, List.length_cons, List.length_replicate]
        omega
      have htext : pointed (d :: fs) = [d] ++ point fs := by
        cases fs <;> rfl
      rw [hplaces] at hread
      rw [htext]
      simpa using hread

/-- A float its text names is read back. -/
theorem number_reprRat {q : ℚ} (hq : Named q) {r : List Char} (hr : Stops r) :
    number ((reprRat q).toList ++ r) = some (.float (.fin q), r) := by
  by_cases h0 : q = 0
  · subst h0
    have hzero : Whole ['0'] := ⟨by decide, by decide, fun _ => rfl⟩
    have hread := @number_fraction false _ hzero ['0'] (by decide) (by decide) _ hr
    exact hread
  · obtain ⟨K, hK, hdiv⟩ := hq.1
    have hplaces := decimalPlaces_spec q 400 0 K (Nat.zero_le K) (by omega) hdiv
    have hmantissa := exists_mantissa hplaces
    rw [toList_reprRat h0 rfl rfl]
    generalize decimalPlaces q 400 0 = k at hmantissa
    generalize ⌊|q| * 10 ^ k⌋.toNat = a at hmantissa
    have ha : 0 < a := by
      have hpos : 0 < (a : ℚ) := by
        rw [hmantissa]
        exact mul_pos (abs_pos.2 h0) (by positivity)
      exact_mod_cast hpos
    have hvalue : (a : ℚ) * 10 ^ (-k : Int) = |q| := by
      rw [hmantissa, zpow_neg, zpow_natCast]
      field_simp
    rw [List.append_assoc]
    split
    · obtain ⟨m, e, hme, hread⟩ := @number_positional (decide (q < 0)) _ k ha _ hr
      rw [hread, ofDecimal_named hq h0 (hme.trans hvalue)]
    · obtain ⟨m, e, hme, hread⟩ := @number_scientific (decide (q < 0)) _ k ha _ hr
      rw [hread, ofDecimal_named hq h0 (hme.trans hvalue)]

/-! ## Reading a value -/

/-- What reads as a number starts with a digit, after a sign. -/
theorem number_head {cs : List Char} {p : Json × List Char} (h : number cs = some p) :
    ∃ neg d rest, cs = sign neg ++ d :: rest ∧ d.isDigit = true := by
  have hunsigned : ∀ {neg : Bool} {cs : List Char}, unsigned neg cs = some p →
      ∃ d rest, cs = d :: rest ∧ d.isDigit = true := by
    intro neg cs h
    cases cs with
    | nil => cases h
    | cons d rest =>
      refine ⟨d, rest, rfl, ?_⟩
      by_contra hd
      have hzero : d ≠ '0' := by
        rintro rfl
        exact hd rfl
      have hnone : digits ([] ++ d :: rest) = ([], d :: rest) :=
        digits_run (fun c hc => by cases hc; simpa using hd) (List.forall_mem_nil _)
      unfold unsigned at h
      dsimp only at h
      rw [if_neg hzero, ← List.nil_append (d :: rest), hnone] at h
      cases h
  by_cases hminus : cs.head? = some '-'
  · obtain ⟨cs, rfl⟩ := List.head?_eq_some_iff.1 hminus
    rw [number_minus] at h
    obtain ⟨d, rest, rfl, hd⟩ := hunsigned h
    exact ⟨true, d, rest, rfl, hd⟩
  · rw [number_unsigned hminus] at h
    obtain ⟨d, rest, rfl, hd⟩ := hunsigned h
    exact ⟨false, d, rest, rfl, hd⟩

theorem mem_digitChars {d : Char} (h : d.isDigit = true) : d ∈ ['0', '1', '2', '3', '4', '5', '6', '7', '8', '9'] := by
  simp only [Char.isDigit, Bool.and_eq_true, decide_eq_true_eq, ge_iff_le, UInt32.le_iff_toNat_le] at h
  have hge : 48 ≤ d.toNat := h.1
  have hle : d.toNat ≤ 57 := h.2
  rw [← Char.ofNat_toNat d]
  generalize d.toNat = n at hge hle
  interval_cases n <;> decide

/-- What reads as a number is a value. -/
theorem value_number (fuel : Nat) {cs : List Char} {p : Json × List Char} (h : number cs = some p) :
    value (fuel + 1) cs = some p := by
  obtain ⟨neg, d, rest, rfl, hd⟩ := number_head h
  rw [← h]
  have hd := mem_digitChars hd
  simp only [List.mem_cons, List.not_mem_nil, or_false] at hd
  cases neg <;> rcases hd with rfl | rfl | rfl | rfl | rfl | rfl | rfl | rfl | rfl | rfl <;> rfl

/-- A value starts with no blank and with no bracket that closes. -/
theorem value_head {fuel : Nat} {cs : List Char} {p : Json × List Char} (h : value fuel cs = some p) :
    ∃ c r, cs = c :: r ∧ isWs c = false ∧ c ≠ ']' := by
  cases fuel with
  | zero => cases h
  | succ fuel =>
    cases cs with
    | nil => cases h
    | cons c r =>
      refine ⟨c, r, rfl, ?_, ?_⟩
      · by_contra hws
        simp only [isWs, Bool.not_eq_false, Bool.or_eq_true, decide_eq_true_eq] at hws
        rcases hws with ((rfl | rfl) | rfl) | rfl <;> cases h
      · rintro rfl
        cases h

theorem ws_pad (l : Layout) {cs : List Char} (h : ∀ c ∈ cs.head?, isWs c = false) : ws (l.pad ++ cs) = cs := by
  unfold ws
  rw [List.dropWhile_append_of_pos fun c hc => by rw [l.blank c hc]; rfl]
  exact dropWhile_of_head h

theorem ws_head {cs : List Char} (h : ∀ c ∈ cs.head?, isWs c = false) : ws cs = cs := dropWhile_of_head h

end Loads

/-! ## The round trip -/

/-- A float its text names. -/
def PyFloat.Named : PyFloat → Prop
  | .fin q => Loads.Named q
  | _ => True

mutual

/-- Every object has distinct keys, and every float has the property. -/
def Json.Proper (P : PyFloat → Prop) : Json → Prop
  | .float x => P x
  | .arr xs => Json.ProperItems P xs
  | .obj kvs => (Dict.keys kvs).Nodup ∧ Json.ProperMembers P kvs
  | _ => True

def Json.ProperItems (P : PyFloat → Prop) : List Json → Prop
  | [] => True
  | x :: xs => x.Proper P ∧ Json.ProperItems P xs

def Json.ProperMembers (P : PyFloat → Prop) : List (String × Json) → Prop
  | [] => True
  | (_, v) :: kvs => v.Proper P ∧ Json.ProperMembers P kvs

end

/-- A value that its text names. -/
abbrev Json.Sound (j : Json) : Prop := j.Proper PyFloat.Named

namespace Loads

open Dumps (encodable encodableItems encodableMembers)

/-- What may follow a value in a document. -/
def Follows (r : List Char) : Prop := ∀ c ∈ r.head?, c = ',' ∨ c = ']' ∨ c = '\x7d'

theorem Follows.stops {r : List Char} (h : Follows r) : Stops r := by
  intro c hc
  rcases h c hc with rfl | rfl | rfl <;> decide

theorem Follows.ws {r : List Char} (h : Follows r) : ws r = r := by
  apply ws_head
  intro c hc
  rcases h c hc with rfl | rfl | rfl <;> rfl

theorem follows_items (l : Layout) (xs : List Json) (r : List Char) : Follows (Dumps.items l xs ++ r) := by
  intro c hc
  cases xs <;> cases hc <;> simp

theorem follows_members (l : Layout) (kvs : List (String × Json)) (r : List Char) :
    Follows (Dumps.members l kvs ++ r) := by
  intro c hc
  cases kvs <;> cases hc <;> simp

theorem length_items_pos (l : Layout) (xs : List Json) : 0 < (Dumps.items l xs).length := by
  cases xs <;> simp

theorem length_members_pos (l : Layout) (kvs : List (String × Json)) : 0 < (Dumps.members l kvs).length := by
  rcases kvs with _ | ⟨⟨k, v⟩, kvs⟩ <;> simp

theorem value_literal (fuel : Nat) {j : Json} {lit : List Char}
    (h : (j, lit) ∈ [(Json.null, "null".toList), (.bool true, "true".toList), (.bool false, "false".toList),
      (.float .nan, "NaN".toList), (.float (.inf false), "Infinity".toList), (.float (.inf true), "-Infinity".toList)])
    (r : List Char) : value (fuel + 1) (lit ++ r) = some (j, r) := by
  simp only [List.mem_cons, Prod.mk.injEq, List.not_mem_nil, or_false] at h
  rcases h with ⟨rfl, rfl⟩ | ⟨rfl, rfl⟩ | ⟨rfl, rfl⟩ | ⟨rfl, rfl⟩ | ⟨rfl, rfl⟩ | ⟨rfl, rfl⟩ <;> rfl

theorem value_string (fuel : Nat) (l : Layout) (s : String) (r : List Char) :
    value (fuel + 1) (Dumps.string l s ++ r) = some (.str s, r) := by
  obtain ⟨cs, hcs, hread⟩ := string_dumps l s r
  rw [hcs]
  show (string (cs.length + 1) [] cs).map _ = _
  rw [hread]
  rfl

/-- One item is read, then the others. -/
theorem items_cons {l : Layout} {x : Json} {xs : List Json} {fuel : Nat} {acc : List Json} {r : List Char}
    (hx : value fuel (Dumps.value l x ++ (Dumps.items l xs ++ r)) = some (x, Dumps.items l xs ++ r)) :
    items (fuel + 1) acc (Dumps.value l x ++ (Dumps.items l xs ++ r)) =
      match xs with
      | [] => some (.arr (x :: acc).reverse, r)
      | y :: ys => items fuel (x :: acc) (ws (l.pad ++ (Dumps.value l y ++ (Dumps.items l ys ++ r)))) := by
  rw [items, hx]
  simp only [Option.bind_eq_bind, Option.bind_some, (follows_items l xs r).ws]
  cases xs with
  | nil => rfl
  | cons y ys => simp only [Dumps.items_cons, List.cons_append, List.append_assoc]

/-- One member is read, then the others. -/
theorem members_cons {l : Layout} {k : String} {v : Json} {kvs : List (String × Json)} {fuel : Nat} {acc : Obj}
    {r : List Char} (hacc : k ∉ Dict.keys acc)
    (hv : value fuel (Dumps.value l v ++ (Dumps.members l kvs ++ r)) = some (v, Dumps.members l kvs ++ r)) :
    members (fuel + 1) acc (Dumps.string l k ++ ':' :: (l.pad ++ (Dumps.value l v ++ (Dumps.members l kvs ++ r)))) =
      match kvs with
      | [] => some (.obj (acc ++ [(k, v)]), r)
      | (k', v') :: kvs' => members fuel (acc ++ [(k, v)])
          (ws (l.pad ++ (Dumps.string l k' ++ ':' :: (l.pad ++ (Dumps.value l v' ++ (Dumps.members l kvs' ++ r)))))) := by
  obtain ⟨cs, hcs, hread⟩ := string_dumps l k (':' :: (l.pad ++ (Dumps.value l v ++ (Dumps.members l kvs ++ r))))
  obtain ⟨c, rest, hhead, hblank, -⟩ := value_head hv
  have hskip : ws (l.pad ++ (Dumps.value l v ++ (Dumps.members l kvs ++ r))) =
      Dumps.value l v ++ (Dumps.members l kvs ++ r) := by
    apply ws_pad
    rw [hhead]
    rintro _ ⟨⟩
    exact hblank
  have hcolon : ∀ cs : List Char, ws (':' :: cs) = ':' :: cs := fun cs => ws_head (by rintro _ ⟨⟩; rfl)
  rw [hcs, members]
  simp only [hread, Option.bind_eq_bind, Option.bind_some, hcolon, hskip, hv, (follows_members l kvs r).ws,
    Dict.set_of_not_mem v hacc]
  rcases kvs with _ | ⟨⟨k', v'⟩, kvs'⟩
  · rfl
  · simp only [Dumps.members_cons, List.cons_append, List.append_assoc]

theorem length_value_pos (l : Layout) {j : Json} (h : j.Sound) : 0 < (Dumps.value l j).length := by
  cases j with
  | int n =>
    have hpos : 0 < (Nat.toDigits 10 n.natAbs).length := Nat.length_toDigits_pos
    rw [Dumps.value_int, int_eq, List.length_append]
    omega
  | float x =>
    rw [Dumps.value_float]
    rcases x with q | neg | _
    · rw [List.length_pos_iff]
      intro hnil
      have hread := number_reprRat h (r := []) (by rintro _ ⟨⟩)
      obtain ⟨neg, d, rest, hhead, -⟩ := number_head hread
      rw [show (reprRat q).toList = [] from hnil] at hhead
      cases neg <;> cases hhead
    · cases neg <;> exact Nat.succ_pos _
    · exact Nat.succ_pos _
  | str s => exact Nat.succ_pos _
  | arr xs => cases xs <;> exact Nat.succ_pos _
  | obj kvs => rcases kvs with _ | ⟨⟨k, v⟩, kvs⟩ <;> exact Nat.succ_pos _
  | bool b => cases b <;> exact Nat.succ_pos _
  | null => exact Nat.succ_pos _

theorem value_int {l : Layout} {n : Int} (hl : encodable l (.int n) = true) {r : List Char} (hr : Follows r) (fuel : Nat) :
    value (fuel + 1) (Dumps.value l (.int n) ++ r) = some (.int n, r) :=
  value_number fuel (number_int (of_decide_eq_true hl) hr.stops)

theorem value_float {l : Layout} {x : PyFloat} (hs : (Json.float x).Sound) {r : List Char} (hr : Follows r) (fuel : Nat) :
    value (fuel + 1) (Dumps.value l (.float x) ++ r) = some (.float x, r) := by
  rcases x with q | neg | _
  · exact value_number fuel (number_reprRat hs hr.stops)
  · cases neg
    · exact value_literal fuel (.tail _ (.tail _ (.tail _ (.tail _ (.head _))))) r
    · exact value_literal fuel (.tail _ (.tail _ (.tail _ (.tail _ (.tail _ (.head _)))))) r
  · exact value_literal fuel (.tail _ (.tail _ (.tail _ (.head _)))) r

theorem value_bool {l : Layout} (b : Bool) (r : List Char) (fuel : Nat) :
    value (fuel + 1) (Dumps.value l (.bool b) ++ r) = some (.bool b, r) := by
  cases b
  · exact value_literal fuel (.tail _ (.tail _ (.head _))) r
  · exact value_literal fuel (.tail _ (.head _)) r

/-- An array with items is read by reading its items. -/
theorem value_arr {l : Layout} {x : Json} {xs : List Json} {r : List Char} {fuel : Nat}
    (hx : value fuel (Dumps.value l x ++ (Dumps.items l xs ++ r)) = some (x, Dumps.items l xs ++ r)) :
    value (fuel + 1) (Dumps.value l (.arr (x :: xs)) ++ r) = items fuel [] (Dumps.value l x ++ (Dumps.items l xs ++ r)) := by
  obtain ⟨c, rest, hhead, hblank, hbracket⟩ := value_head hx
  have htext : Dumps.value l (.arr (x :: xs)) ++ r = '[' :: (Dumps.value l x ++ (Dumps.items l xs ++ r)) := by
    simp
  have hskip : ws (c :: rest) = c :: rest := ws_head (by rintro _ ⟨⟩; exact hblank)
  rw [htext, hhead, value, hskip]
  split
  · rename_i heq
    exact absurd (List.cons_eq_cons.1 heq).1 hbracket
  · rfl

/-- An object with members is read by reading its members. -/
theorem value_obj {l : Layout} {k : String} {v : Json} {kvs : List (String × Json)} {r : List Char} {fuel : Nat} :
    value (fuel + 1) (Dumps.value l (.obj ((k, v) :: kvs)) ++ r) = members fuel []
      (Dumps.string l k ++ ':' :: (l.pad ++ (Dumps.value l v ++ (Dumps.members l kvs ++ r)))) := by
  obtain ⟨cs, hcs, -⟩ := string_dumps l k (':' :: (l.pad ++ (Dumps.value l v ++ (Dumps.members l kvs ++ r))))
  have htext : Dumps.value l (.obj ((k, v) :: kvs)) ++ r = '\x7b' ::
      (Dumps.string l k ++ ':' :: (l.pad ++ (Dumps.value l v ++ (Dumps.members l kvs ++ r)))) := by
    simp
  have hskip : ws ('"' :: cs) = '"' :: cs := ws_head (by rintro _ ⟨⟩; rfl)
  rw [htext, hcs, value, hskip]
  rfl

mutual

/-- What is written for a value reads as that value. -/
theorem value_dumps {l : Layout} : ∀ {j : Json}, j.Sound → encodable l j = true → ∀ {r : List Char}, Follows r →
    ∀ {n : Nat}, (Dumps.value l j).length ≤ n → value n (Dumps.value l j ++ r) = some (j, r)
  | _, hs, _, _, _, 0, hfuel => absurd (length_value_pos l hs) (Nat.not_lt.2 hfuel)
  | .null, _, _, r, _, fuel + 1, _ => value_literal fuel (.head _) r
  | .bool b, _, _, r, _, fuel + 1, _ => value_bool b r fuel
  | .int _, _, hl, _, hr, fuel + 1, _ => value_int hl hr fuel
  | .float _, hs, _, _, hr, fuel + 1, _ => value_float hs hr fuel
  | .str s, _, _, r, _, fuel + 1, _ => value_string fuel l s r
  | .arr [], _, _, _, _, _ + 1, _ => by
    simp [value, ws, isWs]
  | .arr (x :: xs), hs, hl, r, hr, fuel + 1, hfuel => by
    simp only [Dumps.value_arr_cons, List.length_cons, List.length_append] at hfuel
    have hl : encodable l x = true ∧ encodableItems l xs = true := Bool.and_eq_true_iff.1 hl
    have hx := value_dumps hs.1 hl.1 (follows_items l xs r) (n := fuel) (by omega)
    have hread := items_dumps hs.1 hs.2 hl.1 hl.2 (a := []) hr (n := fuel) (by omega)
    rw [value_arr hx, hread]
    rfl
  | .obj [], _, _, _, _, _ + 1, _ => by
    simp [value, ws, isWs]
  | .obj ((k, v) :: kvs), hs, hl, r, hr, fuel + 1, hfuel => by
    simp only [Dumps.value_obj_cons, List.length_cons, List.length_append] at hfuel
    have hl : encodable l v = true ∧ encodableMembers l kvs = true := Bool.and_eq_true_iff.1 hl
    have hread := members_dumps (k := k) hs.2.1 hs.2.2 hl.1 hl.2 (o := []) hs.1 hr (n := fuel) (by omega)
    rw [value_obj, hread]
    rfl

theorem items_dumps {l : Layout} : ∀ {x : Json} {xs : List Json}, x.Sound → Json.ProperItems PyFloat.Named xs →
    encodable l x = true → encodableItems l xs = true → ∀ {a : List Json} {r : List Char}, Follows r → ∀ {n : Nat},
    (Dumps.value l x).length + (Dumps.items l xs).length ≤ n →
    items n a (Dumps.value l x ++ (Dumps.items l xs ++ r)) = some (.arr (a.reverse ++ x :: xs), r)
  | x, xs, hs, _, _, _, _, _, _, 0, hfuel => by
    have hpos := length_value_pos l hs
    omega
  | x, [], hs, _, hl, _, acc, r, hr, fuel + 1, hfuel => by
    have hpos := length_items_pos l []
    rw [items_cons (value_dumps hs hl (follows_items l [] r) (by omega))]
    simp
  | x, y :: ys, hs, hss, hl, hls, acc, r, hr, fuel + 1, hfuel => by
    have hls : encodable l y = true ∧ encodableItems l ys = true := Bool.and_eq_true_iff.1 hls
    have hpos := length_value_pos l hs
    simp only [Dumps.items_cons, List.length_cons, List.length_append] at hfuel
    have hy := value_dumps hss.1 hls.1 (follows_items l ys r) (n := fuel) (by omega)
    obtain ⟨c, rest, hhead, hblank, -⟩ := value_head hy
    have hread := items_dumps hss.1 hss.2 hls.1 hls.2 (a := x :: acc) hr (n := fuel) (by omega)
    rw [items_cons (value_dumps hs hl (follows_items l (y :: ys) r) (by omega))]
    dsimp only
    rw [ws_pad l (by rw [hhead]; rintro _ ⟨⟩; exact hblank), hread]
    simp

theorem members_dumps {l : Layout} : ∀ {k : String} {v : Json} {kvs : List (String × Json)}, v.Sound →
    Json.ProperMembers PyFloat.Named kvs → encodable l v = true → encodableMembers l kvs = true → ∀ {o : Obj},
    (Dict.keys (o ++ (k, v) :: kvs)).Nodup → ∀ {r : List Char}, Follows r → ∀ {n : Nat},
    (Dumps.value l v).length + (Dumps.members l kvs).length ≤ n →
    members n o (Dumps.string l k ++ ':' :: (l.pad ++ (Dumps.value l v ++ (Dumps.members l kvs ++ r)))) =
      some (.obj (o ++ (k, v) :: kvs), r)
  | _, _, _, hs, _, _, _, _, _, _, _, 0, hfuel => by
    have hpos := length_value_pos l hs
    omega
  | k, v, [], hs, _, hl, _, acc, hn, r, hr, fuel + 1, hfuel => by
    have hpos := length_members_pos l []
    have hnew : k ∉ Dict.keys acc := by
      rw [Dict.keys, List.map_append, List.nodup_append] at hn
      exact fun hmem => hn.2.2 k hmem k (List.mem_cons_self ..) rfl
    rw [members_cons hnew (value_dumps hs hl (follows_members l [] r) (by omega))]
  | k, v, (k', v') :: kvs, hs, hss, hl, hls, acc, hn, r, hr, fuel + 1, hfuel => by
    have hls : encodable l v' = true ∧ encodableMembers l kvs = true := Bool.and_eq_true_iff.1 hls
    have hpos := length_value_pos l hs
    simp only [Dumps.members_cons, List.length_cons, List.length_append] at hfuel
    have hnew : k ∉ Dict.keys acc := by
      rw [Dict.keys, List.map_append, List.nodup_append] at hn
      exact fun hmem => hn.2.2 k hmem k (List.mem_cons_self ..) rfl
    have hn' : (Dict.keys ((acc ++ [(k, v)]) ++ (k', v') :: kvs)).Nodup := by
      rw [List.append_assoc]
      exact hn
    have hread := members_dumps (k := k') hss.1 hss.2 hls.1 hls.2 hn' hr (n := fuel) (by omega)
    obtain ⟨cs, hcs, -⟩ := string_dumps l k' (':' :: (l.pad ++ (Dumps.value l v' ++ (Dumps.members l kvs ++ r))))
    rw [members_cons hnew (value_dumps hs hl (follows_members l ((k', v') :: kvs) r) (by omega))]
    dsimp only
    rw [ws_pad l (by rw [hcs]; rintro _ ⟨⟩; rfl), hread, List.append_assoc]
    rfl

end

end Loads

/-- What `json.dumps` writes `json.loads` reads. -/
theorem loads_dumps {l : Layout} {j : Json} (h : j.Sound) {s : String} (hs : dumps l j = .ok s) : loads s = .ok j := by
  unfold dumps at hs
  split at hs
  · rename_i hl
    cases hs
    have hread := Loads.value_dumps h hl (r := []) (by rintro _ ⟨⟩)
      (n := 2 * (Dumps.value l j).length + 2) (by omega)
    rw [List.append_nil] at hread
    obtain ⟨c, r, hhead, hblank, -⟩ := Loads.value_head hread
    have hskip : Loads.ws (Dumps.value l j) = Dumps.value l j := by
      apply Loads.ws_head
      rw [hhead]
      rintro _ ⟨⟩
      exact hblank
    unfold loads
    rw [String.toList_ofList, String.length_ofList, hskip, hread]
    rfl
  · cases hs

/-! ## The characters written -/

/-- A character of a one-line text, one of ASCII where nothing else is written. -/
def Layout.Prints (l : Layout) (c : Char) : Prop := 0x20 ≤ c.toNat ∧ (l.ensureAscii = true → c.toNat < 0x7F)

namespace Dumps

variable (l : Layout)

/-- A printed character of ASCII. -/
def Plain (c : Char) : Prop := 0x20 ≤ c.toNat ∧ c.toNat < 0x7F

instance (c : Char) : Decidable (Plain c) := inferInstanceAs (Decidable (_ ∧ _))

theorem Plain.prints {c : Char} (h : Plain c) : l.Prints c := ⟨h.1, fun _ => h.2⟩

theorem plain_of_mem {cs : List Char} (h : ∀ c ∈ cs, Plain c) : ∀ c ∈ cs, l.Prints c := fun c hc => (h c hc).prints l

theorem plain_of_isDigit {c : Char} (h : c.isDigit = true) : Plain c :=
  (by decide : ∀ c ∈ ['0', '1', '2', '3', '4', '5', '6', '7', '8', '9'], Plain c) c (Loads.mem_digitChars h)

theorem plain_digitChar {n : Nat} (h : n < 16) : Plain (Nat.digitChar n) := by
  revert n
  decide

theorem plain_unicode (n : Nat) : ∀ c ∈ unicode n, Plain c := by
  have hdigit : ∀ m, Plain (Nat.digitChar (m % 16)) := fun m => plain_digitChar (Nat.mod_lt _ (by decide))
  simp only [unicode, List.forall_mem_cons]
  exact ⟨by decide, by decide, hdigit _, hdigit _, hdigit _, hdigit _, List.forall_mem_nil _⟩

theorem prints_escape (c : Char) : ∀ d ∈ escape l.ensureAscii c, l.Prints d := by
  unfold escape
  split_ifs with _ _ _ _ _ _ _ hspecial hunit
  · exact plain_of_mem l (by decide)
  · exact plain_of_mem l (by decide)
  · exact plain_of_mem l (by decide)
  · exact plain_of_mem l (by decide)
  · exact plain_of_mem l (by decide)
  · exact plain_of_mem l (by decide)
  · exact plain_of_mem l (by decide)
  · exact plain_of_mem l (plain_unicode _)
  · intro d hd
    rcases List.mem_append.1 hd with hd | hd
    · exact Plain.prints l (plain_unicode _ d hd)
    · exact Plain.prints l (plain_unicode _ d hd)
  · intro d hd
    rw [List.mem_singleton.1 hd]
    rw [not_or, not_and] at hspecial
    exact ⟨Nat.le_of_not_lt hspecial.1, fun ha => Nat.lt_of_not_le (hspecial.2 ha)⟩

theorem prints_string (s : String) : ∀ c ∈ string l s, l.Prints c := by
  intro c hc
  rcases List.mem_cons.1 hc with rfl | hc
  · exact Plain.prints l (by decide)
  · rcases List.mem_append.1 hc with hc | hc
    · obtain ⟨d, -, hd⟩ := List.mem_flatMap.1 hc
      exact prints_escape l d c hd
    · rw [List.mem_singleton.1 hc]
      exact Plain.prints l (by decide)

theorem plain_sign (neg : Bool) : ∀ c ∈ Loads.sign neg, Plain c := by
  cases neg <;> decide

theorem plain_int (n : Int) : ∀ c ∈ int n, Plain c := by
  intro c hc
  rw [Loads.int_eq] at hc
  rcases List.mem_append.1 hc with hc | hc
  · exact plain_sign _ c hc
  · exact plain_of_isDigit (Loads.digits_toDigits _ c hc)

theorem plain_positional {ds : List Char} (hds : ∀ c ∈ ds, Plain c) (k : Nat) :
    ∀ c ∈ Loads.positional k ds, Plain c := by
  intro c hc
  unfold Loads.positional at hc
  split at hc
  · simp only [List.mem_cons, List.mem_append, List.mem_replicate] at hc
    rcases hc with rfl | rfl | ⟨-, rfl⟩ | hc
    · decide
    · decide
    · decide
    · exact hds c hc
  · split at hc
    · simp only [List.mem_append, List.mem_cons, List.not_mem_nil, or_false] at hc
      rcases hc with hc | rfl | rfl
      · exact hds c hc
      · decide
      · decide
    · simp only [List.mem_append, List.mem_cons] at hc
      rcases hc with hc | rfl | hc
      · exact hds c (List.mem_of_mem_take hc)
      · decide
      · exact hds c (List.mem_of_mem_drop hc)

theorem plain_scientific {ds : List Char} (hds : ∀ c ∈ ds, Plain c) (e : Int) :
    ∀ c ∈ Loads.scientific e ds, Plain c := by
  have htrimmed : ∀ c ∈ Loads.trimmed ds, Plain c := fun c hc =>
    hds c (List.mem_reverse.1 ((List.dropWhile_sublist _).subset (List.mem_reverse.1 hc)))
  have hpointed : ∀ {ds : List Char}, (∀ c ∈ ds, Plain c) → ∀ c ∈ Loads.pointed ds, Plain c := by
    intro ds hds
    rcases ds with _ | ⟨d, _ | ⟨d', ds⟩⟩
    · decide
    · exact hds
    · rw [List.forall_mem_cons] at hds
      exact List.forall_mem_cons.2 ⟨hds.1, List.forall_mem_cons.2 ⟨by decide, hds.2⟩⟩
  have hexponent : ∀ c ∈ Loads.exponentDigits e.natAbs, Plain c := by
    intro c hc
    unfold Loads.exponentDigits at hc
    split at hc
    · rcases List.mem_cons.1 hc with rfl | hc
      · decide
      · exact plain_of_isDigit (Loads.digits_toDigits _ c hc)
    · exact plain_of_isDigit (Loads.digits_toDigits _ c hc)
  intro c hc
  simp only [Loads.scientific, List.mem_append, List.mem_cons] at hc
  rcases hc with hc | rfl | rfl | hc
  · exact hpointed htrimmed c hc
  · decide
  · split <;> decide
  · exact hexponent c hc

theorem plain_reprRat (q : ℚ) : ∀ c ∈ (reprRat q).toList, Plain c := by
  by_cases h0 : q = 0
  · subst h0
    exact fun c hc => (by decide +kernel : ∀ c ∈ (reprRat 0).toList, Plain c) c hc
  · intro c hc
    rw [Loads.toList_reprRat h0 rfl rfl] at hc
    have hdigits : ∀ c ∈ Nat.toDigits 10 ⌊|q| * 10 ^ decimalPlaces q 400 0⌋.toNat, Plain c :=
      fun c hc => plain_of_isDigit (Loads.digits_toDigits _ c hc)
    rcases List.mem_append.1 hc with hc | hc
    · exact plain_sign _ c hc
    · split at hc
      · exact plain_positional hdigits _ c hc
      · exact plain_scientific hdigits _ c hc

theorem plain_float : ∀ (x : PyFloat), ∀ c ∈ float x, Plain c
  | .fin q => plain_reprRat q
  | .inf false => (by decide : ∀ c ∈ "Infinity".toList, Plain c)
  | .inf true => (by decide : ∀ c ∈ "-Infinity".toList, Plain c)
  | .nan => (by decide : ∀ c ∈ "NaN".toList, Plain c)

theorem prints_pad : ∀ c ∈ l.pad, l.Prints c := fun c hc => Plain.prints l (by rw [l.blank c hc]; decide)

mutual

theorem prints_value : ∀ (j : Json), ∀ c ∈ value l j, l.Prints c
  | .null, c, hc => plain_of_mem l (by decide : ∀ c ∈ "null".toList, Plain c) c hc
  | .bool true, c, hc => plain_of_mem l (by decide : ∀ c ∈ "true".toList, Plain c) c hc
  | .bool false, c, hc => plain_of_mem l (by decide : ∀ c ∈ "false".toList, Plain c) c hc
  | .int n, c, hc => Plain.prints l (plain_int n c hc)
  | .float x, c, hc => Plain.prints l (plain_float x c hc)
  | .str s, c, hc => prints_string l s c hc
  | .arr [], c, hc => plain_of_mem l (by decide : ∀ c ∈ ['[', ']'], Plain c) c hc
  | .arr (x :: xs), c, hc => by
    rw [value_arr_cons, List.mem_cons, List.mem_append] at hc
    rcases hc with rfl | hc | hc
    · exact Plain.prints l (by decide)
    · exact prints_value x c hc
    · exact prints_items xs c hc
  | .obj [], c, hc => plain_of_mem l (by decide : ∀ c ∈ [ '\x7b', '\x7d'], Plain c) c hc
  | .obj ((k, v) :: kvs), c, hc => by
    simp only [value_obj_cons, List.mem_cons, List.mem_append] at hc
    rcases hc with rfl | hc | rfl | hc | hc | hc
    · exact Plain.prints l (by decide)
    · exact prints_string l k c hc
    · exact Plain.prints l (by decide)
    · exact prints_pad l c hc
    · exact prints_value v c hc
    · exact prints_members kvs c hc

theorem prints_items : ∀ (xs : List Json), ∀ c ∈ items l xs, l.Prints c
  | [], c, hc => plain_of_mem l (by decide : ∀ c ∈ [']'], Plain c) c hc
  | x :: xs, c, hc => by
    simp only [items_cons, List.mem_cons, List.mem_append] at hc
    rcases hc with rfl | hc | hc | hc
    · exact Plain.prints l (by decide)
    · exact prints_pad l c hc
    · exact prints_value x c hc
    · exact prints_items xs c hc

theorem prints_members : ∀ (kvs : List (String × Json)), ∀ c ∈ members l kvs, l.Prints c
  | [], c, hc => plain_of_mem l (by decide : ∀ c ∈ [ '\x7d'], Plain c) c hc
  | (k, v) :: kvs, c, hc => by
    simp only [members_cons, List.mem_cons, List.mem_append] at hc
    rcases hc with rfl | hc | hc | rfl | hc | hc | hc
    · exact Plain.prints l (by decide)
    · exact prints_pad l c hc
    · exact prints_string l k c hc
    · exact Plain.prints l (by decide)
    · exact prints_pad l c hc
    · exact prints_value v c hc
    · exact prints_members kvs c hc

end

theorem getLast?_items : ∀ xs : List Json, (items l xs).getLast? = some ']'
  | [] => rfl
  | x :: xs => by
    rw [items_cons, List.getLast?_cons, ← List.append_assoc, List.getLast?_append, getLast?_items xs]
    rfl

theorem getLast?_members : ∀ kvs : List (String × Json), (members l kvs).getLast? = some '\x7d'
  | [] => rfl
  | (k, v) :: kvs => by
    rw [members_cons, List.getLast?_cons, List.getLast?_append, List.getLast?_append, List.getLast?_cons,
      List.getLast?_append, List.getLast?_append, getLast?_members kvs]
    rfl

/-- The text of an object is between its braces. -/
theorem value_obj_ends (kvs : Obj) :
    (value l (.obj kvs)).head? = some '\x7b' ∧ (value l (.obj kvs)).getLast? = some '\x7d' := by
  rcases kvs with _ | ⟨⟨k, v⟩, kvs⟩
  · exact ⟨rfl, rfl⟩
  · refine ⟨rfl, ?_⟩
    rw [value_obj_cons, List.getLast?_cons, List.getLast?_append, List.getLast?_cons, List.getLast?_append,
      List.getLast?_append, getLast?_members]
    rfl

end Dumps

theorem dumps_eq_ok {l : Layout} {j : Json} {s : String} :
    dumps l j = .ok s ↔ Dumps.encodable l j = true ∧ s = String.ofList (Dumps.value l j) := by
  unfold dumps
  split
  · rename_i h
    rw [Except.ok.injEq, eq_comm]
    exact (and_iff_right h).symm
  · rename_i h
    exact iff_of_false nofun fun hs => h hs.1

/-- The text of a value is one line of printed characters. -/
theorem prints_dumps {l : Layout} {j : Json} {s : String} (h : dumps l j = .ok s) : ∀ c ∈ s.toList, l.Prints c := by
  rw [(dumps_eq_ok.1 h).2, String.toList_ofList]
  exact Dumps.prints_value l j

theorem Layout.Prints.ne_newline {l : Layout} {c : Char} (h : l.Prints c) : c ≠ '\n' := by
  rintro rfl
  exact absurd h.1 (by decide)

/-! ## What is read can be written -/

/-- A value that `json.dumps` writes, with distinct keys. -/
def Json.Writable (j : Json) : Prop := Dumps.encodable .default j = true ∧ j.Proper fun _ => True

namespace Loads

open Dumps (encodableItems encodableMembers)

theorem foldl_digits_lt : ∀ {ds : List Char}, (∀ c ∈ ds, c.isDigit = true) → ∀ n : Nat,
    ds.foldl (fun n c => n * 10 + (c.toNat - '0'.toNat)) n < (n + 1) * 10 ^ ds.length
  | [], _, n => by simp
  | d :: ds, hds, n => by
    rw [List.forall_mem_cons] at hds
    have hd : d.toNat - '0'.toNat < 10 := (by decide : ∀ c ∈ ['0', '1', '2', '3', '4', '5', '6', '7', '8', '9'],
      c.toNat - '0'.toNat < 10) d (mem_digitChars hds.1)
    calc (d :: ds).foldl (fun n c => n * 10 + (c.toNat - '0'.toNat)) n
        < (n * 10 + (d.toNat - '0'.toNat) + 1) * 10 ^ ds.length := foldl_digits_lt hds.2 _
      _ ≤ ((n + 1) * 10) * 10 ^ ds.length := Nat.mul_le_mul_right _ (by omega)
      _ = (n + 1) * 10 ^ (d :: ds).length := by rw [List.length_cons, Nat.pow_succ']; ring

theorem natOf_lt {ds : List Char} (h : ∀ c ∈ ds, c.isDigit = true) : natOf ds < 10 ^ ds.length := by
  have hlt := foldl_digits_lt h 0
  rwa [Nat.zero_add, Nat.one_mul] at hlt

theorem writable_numberTail {neg : Bool} {whole cs : List Char} (hw : ∀ c ∈ whole, c.isDigit = true) {j : Json}
    {r : List Char} (h : numberTail neg whole cs = some (j, r)) : j.Writable := by
  unfold numberTail at h
  dsimp only at h
  split at h
  · split at h
    · cases h
    · rename_i hlen
      cases h
      refine ⟨decide_eq_true ?_, trivial⟩
      have hnat : (if neg then -(natOf whole : Int) else natOf whole).natAbs = natOf whole := by
        split
        · rw [Int.natAbs_neg, Int.natAbs_natCast]
        · rw [Int.natAbs_natCast]
      rw [hnat, Nat.length_toDigits_le_iff (by decide) (by decide)]
      exact Nat.lt_of_lt_of_le (natOf_lt hw) (Nat.pow_le_pow_right (by decide) (Nat.le_of_not_lt hlen))
  · cases h
    refine ⟨?_, trivial⟩
    generalize ofDecimal _ _ _ = x
    cases x <;> rfl

theorem digits_isDigit (cs : List Char) : ∀ c ∈ (digits cs).1, c.isDigit = true := by
  intro c hc
  rw [digits, List.span_eq_takeWhile_dropWhile] at hc
  have hkept := List.mem_takeWhile_imp hc
  exact isDigit_iff.2 (of_decide_eq_true hkept)

theorem writable_number {cs : List Char} {j : Json} {r : List Char} (h : number cs = some (j, r)) : j.Writable := by
  have hunsigned : ∀ {neg : Bool} {cs : List Char}, unsigned neg cs = some (j, r) → j.Writable := by
    intro neg cs h
    rcases cs with _ | ⟨d, rest⟩
    · cases h
    · unfold unsigned at h
      dsimp only at h
      by_cases hd : d = '0'
      · rw [if_pos hd] at h
        have hzero : ∀ c ∈ ['0'], c.isDigit = true := by decide
        exact writable_numberTail hzero h
      · rw [if_neg hd] at h
        split at h
        · cases h
        · exact writable_numberTail (digits_isDigit _) h
  by_cases hminus : cs.head? = some '-'
  · obtain ⟨cs, rfl⟩ := List.head?_eq_some_iff.1 hminus
    exact hunsigned (number_minus cs ▸ h)
  · exact hunsigned (number_unsigned hminus ▸ h)

theorem writable_items {xs : List Json} (h : ∀ x ∈ xs, x.Writable) : (Json.arr xs).Writable := by
  induction xs with
  | nil => exact ⟨rfl, trivial⟩
  | cons x xs ih =>
    rw [List.forall_mem_cons] at h
    obtain ⟨hx, hxs⟩ := h
    obtain ⟨henc, hproper⟩ := ih hxs
    exact ⟨Bool.and_eq_true_iff.2 ⟨hx.1, henc⟩, hx.2, hproper⟩

theorem writable_members {kvs : Obj} (hn : (Dict.keys kvs).Nodup) (h : ∀ p ∈ kvs, p.2.Writable) :
    (Json.obj kvs).Writable := by
  have hmembers : ∀ {kvs : Obj}, (∀ p ∈ kvs, p.2.Writable) →
      encodableMembers .default kvs = true ∧ Json.ProperMembers (fun _ => True) kvs := by
    intro kvs h
    induction kvs with
    | nil => exact ⟨rfl, trivial⟩
    | cons p kvs ih =>
      rw [List.forall_mem_cons] at h
      obtain ⟨henc, hproper⟩ := ih h.2
      exact ⟨Bool.and_eq_true_iff.2 ⟨h.1.1, henc⟩, h.1.2, hproper⟩
  exact ⟨(hmembers h).1, hn, (hmembers h).2⟩

mutual

/-- What is read as a value can be written, with distinct keys. -/
theorem writable_value : ∀ {fuel : Nat} {cs : List Char} {j : Json} {r : List Char}, value fuel cs = some (j, r) → j.Writable
  | 0, _, _, _, h => by cases h
  | fuel + 1, cs, j, r, h => by
    unfold value at h
    split at h
    · obtain ⟨⟨s, cs'⟩, -, hs⟩ := Option.map_eq_some_iff.1 h
      cases hs
      exact ⟨rfl, trivial⟩
    · split at h
      · cases h
        exact ⟨rfl, List.nodup_nil, trivial⟩
      · have hempty : (Dict.keys ([] : Obj)).Nodup := List.nodup_nil
        exact writable_readMembers hempty (List.forall_mem_nil _) h
    · split at h
      · cases h
        exact ⟨rfl, trivial⟩
      · exact writable_readItems (List.forall_mem_nil _) h
    · split at h
      iterate 3
        · cases h
          exact ⟨rfl, trivial⟩
      · split at h
        iterate 3
          · cases h
            exact ⟨rfl, trivial⟩
        · exact writable_number h

theorem writable_readMembers : ∀ {fuel : Nat} {acc : Obj}, (Dict.keys acc).Nodup → (∀ p ∈ acc, p.2.Writable) →
    ∀ {cs : List Char} {j : Json} {r : List Char}, members fuel acc cs = some (j, r) → j.Writable
  | 0, _, _, _, _, _, _, h => by cases h
  | fuel + 1, acc, hn, hacc, cs, j, r, h => by
    unfold members at h
    split at h
    · obtain ⟨⟨k, cs₁⟩, -, h⟩ := Option.bind_eq_some_iff.1 h
      dsimp only at h
      split at h
      · obtain ⟨⟨v, cs₂⟩, hv, h⟩ := Option.bind_eq_some_iff.1 h
        have hset : ∀ p ∈ Dict.set acc k v, p.2.Writable := by
          intro p hp
          rcases Dict.mem_set hp with rfl | hp
          · exact writable_value hv
          · exact hacc p hp
        dsimp only at h
        split at h
        · cases h
          exact writable_members (Dict.nodup_keys_set hn) hset
        · exact writable_readMembers (Dict.nodup_keys_set hn) hset h
        · cases h
      · cases h
    · cases h

theorem writable_readItems : ∀ {fuel : Nat} {acc : List Json}, (∀ x ∈ acc, x.Writable) →
    ∀ {cs : List Char} {j : Json} {r : List Char}, items fuel acc cs = some (j, r) → j.Writable
  | 0, _, _, _, _, _, h => by cases h
  | fuel + 1, acc, hacc, cs, j, r, h => by
    unfold items at h
    obtain ⟨⟨v, cs₁⟩, hv, h⟩ := Option.bind_eq_some_iff.1 h
    have hcons : ∀ x ∈ v :: acc, x.Writable := List.forall_mem_cons.2 ⟨writable_value hv, hacc⟩
    dsimp only at h
    split at h
    · cases h
      exact writable_items fun x hx => hcons x (List.mem_reverse.1 hx)
    · exact writable_readItems hcons h
    · cases h

end

end Loads

/-- What `json.loads` reads `json.dumps` writes. -/
theorem writable_of_loads {s : String} {j : Json} (h : loads s = .ok j) : j.Writable := by
  unfold loads at h
  split at h
  · rename_i hread
    split at h
    · cases h
      exact Loads.writable_value hread
    · cases h
  · cases h

/-! ## Values that survive the exchange -/

namespace Json

/-- A value that `json.dumps` writes and `json.loads` reads back. -/
def Portable (j : Json) : Prop := Dumps.encodable .default j = true ∧ j.Sound

@[simp] theorem portable_null : Portable .null := ⟨rfl, trivial⟩

@[simp] theorem portable_bool (b : Bool) : Portable (.bool b) := ⟨rfl, trivial⟩

@[simp] theorem portable_str (s : String) : Portable (.str s) := ⟨rfl, trivial⟩

@[simp] theorem portable_int (n : Int) :
    Portable (.int n) ↔ (Nat.toDigits 10 n.natAbs).length ≤ Dumps.maxDigits :=
  ⟨fun h => of_decide_eq_true h.1, fun h => ⟨decide_eq_true h, trivial⟩⟩

@[simp] theorem portable_arr : ∀ {xs : List Json}, Portable (.arr xs) ↔ ∀ x ∈ xs, x.Portable
  | [] => iff_of_true ⟨rfl, trivial⟩ (List.forall_mem_nil _)
  | x :: xs => by
    rw [List.forall_mem_cons, ← @portable_arr xs]
    show (Dumps.encodable .default x && Dumps.encodableItems .default xs) = true ∧ x.Sound ∧ Json.ProperItems _ xs ↔
      (Dumps.encodable .default x = true ∧ x.Sound) ∧ Dumps.encodableItems .default xs = true ∧ Json.ProperItems _ xs
    rw [Bool.and_eq_true]
    tauto

theorem portable_members : ∀ {kvs : Obj},
    (Dumps.encodableMembers .default kvs = true ∧ Json.ProperMembers PyFloat.Named kvs) ↔ ∀ p ∈ kvs, p.2.Portable
  | [] => iff_of_true ⟨rfl, trivial⟩ (List.forall_mem_nil _)
  | (k, v) :: kvs => by
    rw [List.forall_mem_cons, ← @portable_members kvs]
    show (Dumps.encodable .default v && Dumps.encodableMembers .default kvs) = true ∧ v.Sound ∧ Json.ProperMembers _ kvs ↔
      (Dumps.encodable .default v = true ∧ v.Sound) ∧ Dumps.encodableMembers .default kvs = true ∧ Json.ProperMembers _ kvs
    rw [Bool.and_eq_true]
    tauto

@[simp] theorem portable_obj {kvs : Obj} :
    Portable (.obj kvs) ↔ (Dict.keys kvs).Nodup ∧ ∀ p ∈ kvs, p.2.Portable := by
  rw [← portable_members]
  show Dumps.encodableMembers .default kvs = true ∧ (Dict.keys kvs).Nodup ∧ Json.ProperMembers _ kvs ↔ _
  tauto

/-- A value that was read is portable when its floats are named. -/
theorem portable_of_loads {s : String} {j : Json} (h : loads s = .ok j) (hs : j.Sound) : j.Portable :=
  ⟨(writable_of_loads h).1, hs⟩

/-- A portable value is written on one line, which reads as it. -/
theorem Portable.dumps {j : Json} (h : j.Portable) : ∃ text, Py.dumps .default j = .ok text ∧ loads text = .ok j ∧
    '\n' ∉ text.toList := by
  have hdumps := dumps_eq_ok.2 ⟨h.1, rfl⟩
  exact ⟨_, hdumps, loads_dumps h.2 hdumps, fun hmem => (prints_dumps hdumps _ hmem).ne_newline rfl⟩

end Json

end Py
