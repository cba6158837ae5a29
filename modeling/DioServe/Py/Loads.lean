/-
`json.loads` on a text: the grammar Python accepts (RFC 8259 with `NaN`, `Infinity` and
`-Infinity`), a repeated key keeping its last value. A `\u` escape of an unpaired surrogate, which
no text of the model can hold, reads as U+FFFD.
-/
import DioServe.Py.Value

namespace Py

open Data

namespace Loads

def isWs (c : Char) : Bool := c = ' ' || c = '\t' || c = '\n' || c = '\r'

def ws (cs : List Char) : List Char := cs.dropWhile isWs

/-- `cs` after the literal `lit`, if it starts with it. -/
def expect (lit cs : List Char) : Option (List Char) := if lit.isPrefixOf cs then some (cs.drop lit.length) else none

def hexVal (c : Char) : Option Nat :=
  if '0' ≤ c ∧ c ≤ '9' then some (c.toNat - '0'.toNat)
  else if 'a' ≤ c ∧ c ≤ 'f' then some (c.toNat - 'a'.toNat + 10)
  else if 'A' ≤ c ∧ c ≤ 'F' then some (c.toNat - 'A'.toNat + 10)
  else none

/-- Four hexadecimal digits. -/
def hex4 : List Char → Option (Nat × List Char)
  | a :: b :: c :: d :: cs => do
    let a ← hexVal a
    let b ← hexVal b
    let c ← hexVal c
    let d ← hexVal d
    return (((a * 16 + b) * 16 + c) * 16 + d, cs)
  | _ => none

/-- The character of a `\u` escape, a surrogate pair read as one. -/
def unicodeEscape (cs : List Char) : Option (Char × List Char) := do
  let (n, cs) ← hex4 cs
  if 0xD800 ≤ n ∧ n ≤ 0xDBFF then
    match expect ['\\', 'u'] cs with
    | some cs' =>
      match hex4 cs' with
      | some (m, cs'') =>
        if 0xDC00 ≤ m ∧ m ≤ 0xDFFF then return (Char.ofNat (0x10000 + (n - 0xD800) * 0x400 + (m - 0xDC00)), cs'')
        else return ('\uFFFD', cs)
      | none => return ('\uFFFD', cs)
    | none => return ('\uFFFD', cs)
  else if 0xDC00 ≤ n ∧ n ≤ 0xDFFF then return ('\uFFFD', cs)
  else return (Char.ofNat n, cs)

/-- The rest of a string literal after its opening quote; `acc` holds the characters read, last
first. -/
def string : Nat → List Char → List Char → Option (String × List Char)
  | 0, _, _ => none
  | fuel + 1, acc, cs =>
    match cs with
    | '"' :: cs => some (String.ofList acc.reverse, cs)
    | '\\' :: 'u' :: cs => do
      let (c, cs) ← unicodeEscape cs
      string fuel (c :: acc) cs
    | '\\' :: e :: cs =>
      match e with
      | '"' => string fuel ('"' :: acc) cs
      | '\\' => string fuel ('\\' :: acc) cs
      | '/' => string fuel ('/' :: acc) cs
      | 'b' => string fuel (Char.ofNat 8 :: acc) cs
      | 'f' => string fuel (Char.ofNat 12 :: acc) cs
      | 'n' => string fuel ('\n' :: acc) cs
      | 'r' => string fuel ('\r' :: acc) cs
      | 't' => string fuel ('\t' :: acc) cs
      | _ => none
    | c :: cs => if c.toNat < 0x20 ∨ c = '\\' then none else string fuel (c :: acc) cs
    | [] => none

def digits (cs : List Char) : List Char × List Char := cs.span fun c => decide ('0' ≤ c ∧ c ≤ '9')

def natOf (ds : List Char) : Nat := ds.foldl (fun n c => n * 10 + (c.toNat - '0'.toNat)) 0

/-- A fraction part `.d+`, if one follows. -/
def fraction : List Char → Option (List Char × List Char)
  | '.' :: cs => if (digits cs).1 = [] then none else some (digits cs)
  | _ => none

/-- An exponent part, if one follows. -/
def exponent : List Char → Option (Int × List Char)
  | c :: cs =>
    if c = 'e' ∨ c = 'E' then
      let (neg, cs) := readSign cs
      if (digits cs).1 = [] then none
      else some (if neg then -(natOf (digits cs).1 : Int) else natOf (digits cs).1, (digits cs).2)
    else none
  | [] => none

/-- A number literal: an `int` without fraction and exponent, else a `float`. -/
def number (cs : List Char) : Option (Json × List Char) :=
  let (neg, cs) := match cs with
    | '-' :: cs => (true, cs)
    | cs => (false, cs)
  match cs with
  | [] => none
  | d :: rest =>
    let (whole, cs) := if d = '0' then (['0'], rest) else digits cs
    if whole = [] then none
    else
      let frac := fraction cs
      let cs := (frac.map Prod.snd).getD cs
      let exp := exponent cs
      let cs := (exp.map Prod.snd).getD cs
      if frac.isNone ∧ exp.isNone then
        if whole.length > 4300 then none else some (.int (if neg then -(natOf whole : Int) else natOf whole), cs)
      else
        let places := (frac.map Prod.fst).getD []
        some (.float (ofDecimal neg (natOf (whole ++ places)) ((exp.map Prod.fst).getD 0 - places.length)), cs)

mutual

/-- A value at the start of `cs`. -/
def value : Nat → List Char → Option (Json × List Char)
  | 0, _ => none
  | fuel + 1, cs =>
    match cs with
    | '"' :: cs => (string (cs.length + 1) [] cs).map fun (s, cs) => (.str s, cs)
    | '{' :: cs =>
      match ws cs with
      | '}' :: cs => some (.obj [], cs)
      | cs => members fuel [] cs
    | '[' :: cs =>
      match ws cs with
      | ']' :: cs => some (.arr [], cs)
      | cs => items fuel [] cs
    | cs =>
      match expect "null".toList cs, expect "true".toList cs, expect "false".toList cs with
      | some cs, _, _ => some (.null, cs)
      | _, some cs, _ => some (.bool true, cs)
      | _, _, some cs => some (.bool false, cs)
      | _, _, _ =>
        match expect "NaN".toList cs, expect "Infinity".toList cs, expect "-Infinity".toList cs with
        | some cs, _, _ => some (.float .nan, cs)
        | _, some cs, _ => some (.float (.inf false), cs)
        | _, _, some cs => some (.float (.inf true), cs)
        | _, _, _ => number cs

/-- The members of an object up to its closing brace; `acc` holds those read. -/
def members : Nat → Obj → List Char → Option (Json × List Char)
  | 0, _, _ => none
  | fuel + 1, acc, cs =>
    match cs with
    | '"' :: cs => do
      let (k, cs) ← string (cs.length + 1) [] cs
      match ws cs with
      | ':' :: cs =>
        let (v, cs) ← value fuel (ws cs)
        match ws cs with
        | '}' :: cs => some (.obj (Dict.set acc k v), cs)
        | ',' :: cs => members fuel (Dict.set acc k v) (ws cs)
        | _ => none
      | _ => none
    | _ => none

/-- The items of an array up to its closing bracket; `acc` holds those read, last first. -/
def items : Nat → List Json → List Char → Option (Json × List Char)
  | 0, _, _ => none
  | fuel + 1, acc, cs => do
    let (v, cs) ← value fuel cs
    match ws cs with
    | ']' :: cs => some (.arr (v :: acc).reverse, cs)
    | ',' :: cs => items fuel (v :: acc) (ws cs)
    | _ => none

end

end Loads

/-- `json.loads(s)`. Each value consumes a character, so the length is enough fuel. -/
def loads (s : String) : Except PyErr Json :=
  match Loads.value (2 * s.length + 2) (Loads.ws s.toList) with
  | some (j, rest) => if Loads.ws rest = [] then .ok j else .error .valueError
  | none => .error .valueError

/-- Reading characters, compared with a value. -/
theorem loads_of_beq {cs : List Char} {j : Json}
    (h : (match Loads.value (2 * cs.length + 2) (Loads.ws cs) with
      | some (j', rest) => Loads.ws rest = [] && Json.beq j' j
      | none => false) = true) : loads (String.ofList cs) = .ok j := by
  unfold loads
  rw [String.length_ofList, String.toList_ofList]
  split at h
  · rename_i j' rest _
    rw [Bool.and_eq_true, decide_eq_true_iff] at h
    rw [if_pos h.1, Json.eq_of_beq h.2]
  · cases h

example : (loads "[1, -2.50, \"\\u00e9\"]").map (repr .ascii) = .ok "[1, -2.5, '\\xe9']" := by
  decide +kernel

end Py
